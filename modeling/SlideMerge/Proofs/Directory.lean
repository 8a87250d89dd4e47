import SlideMerge.Archive.Image
import SlideMerge.Proofs.Archive
import SlideMerge.Proofs.Encoding

/-!
# Directory records are read as they have been written

**Theorem (`readDirectory_directoryBytes`).** If the properties of entries fit into the fields of
their records, reading the directory gives the list of the entries with the places of their headers,
or the fault of the first extra field that is not sound.

A record is a mark, a row of fields of known widths, and the name, the extra field and the comment
one after another. A field is found by its place in the row (`field_fieldsBytes`), so what a record
holds is read off the row once and for all (`Lists`), and reading a record puts it together again
(`Lists.ofRecord`). Only the name has two forms: one without characters beyond ASCII is not marked
as UTF-8, and each of its bytes stands for itself (`nameOfBytes_nameBytes`).
-/

namespace SlideMerge.Archive

open Text

/-! ## Fields -/

theorem length_fieldsBytes (fields : List (Nat × Nat)) :
    (fieldsBytes fields).length = Numeric.total (fields.map Prod.fst) := by
  induction fields with
  | nil => rfl
  | cons f fields ih =>
    rw [fieldsBytes, List.flatMap_cons, List.length_append, length_fieldBytes]
    exact congrArg (f.1 + ·) ih

theorem field_fieldsBytes {mark : Bytes} {fields : List (Nat × Nat)} {offset width n : Nat}
    (i : Nat) (here : fields[i]? = some (width, n))
    (place : offset = mark.length + Numeric.total ((fields.map Prod.fst).take i))
    (fits : n < Nat.pow 256 width) (tail : Bytes) :
    field (mark ++ fieldsBytes fields ++ tail) offset width = n := by
  obtain ⟨inside, value⟩ := List.getElem?_eq_some_iff.1 here
  have cut : fieldsBytes fields =
      fieldsBytes (fields.take i) ++ (fieldBytes width n ++ fieldsBytes (fields.drop (i + 1))) := by
    conv_lhs => rw [← List.take_append_drop i fields, List.drop_eq_getElem_cons inside, value]
    simp only [fieldsBytes, List.flatMap_append, List.flatMap_cons]
  have before : offset = (mark ++ fieldsBytes (fields.take i)).length := by
    rw [place, List.length_append, length_fieldsBytes, List.map_take]
  have whole : mark ++ fieldsBytes fields ++ tail = mark ++ fieldsBytes (fields.take i) ++
      (fieldBytes width n ++ (fieldsBytes (fields.drop (i + 1)) ++ tail)) := by
    rw [cut]
    simp only [List.append_assoc]
  rw [field, whole, before, List.drop_left, List.take_left' (length_fieldBytes width n),
    littleEndian_fieldBytes width n fits]

/-! ## Names, times and data -/

theorem map_nameCharacter {cs : List Char} (h : ∀ c ∈ cs, c.toNat < 0x80) :
    (encodeUtf8 cs).map nameCharacter = cs := by
  induction cs with
  | nil => rfl
  | cons c rest ih =>
    rw [List.forall_mem_cons] at h
    have byte : (UInt8.ofNat c.toNat).toNat = c.toNat := toNat_ofNat_of_lt (by omega)
    have low : UInt8.ofNat c.toNat < 0x80 := UInt8.lt_iff_toNat_lt.2 (by rw [byte]; exact h.1)
    have first : (encodeUtf8Char c).map nameCharacter = [c] := by
      rw [encodeUtf8Char, if_pos h.1, List.map_singleton, nameCharacter, if_pos low, byte,
        Char.ofNat_toNat]
    rw [encodeUtf8, List.flatMap_cons, List.map_append, first, List.singleton_append]
    exact congrArg (c :: ·) (ih h.2)

/-- **A name is read as it has been written,** whether it is marked as UTF-8 or not. -/
theorem nameOfBytes_nameBytes (e : Entry) :
    nameOfBytes (e.flags ||| nameFlags e.name) (nameBytes e) = .ok e.name := by
  rw [nameOfBytes]
  split_ifs with marked
  · rw [nameBytes, decodeUtf8, decodeUtf8From_encodeUtf8]
    exact congrArg Except.ok String.ofList_toList
  · have plain : ∀ c ∈ e.name.toList, c.toNat < 0x80 := by
      by_contra h
      refine marked ?_
      rw [Nat.testBit_or, nameFlags, if_neg (by simpa using h), Bool.or_eq_true]
      exact Or.inr (by decide)
    rw [nameBytes, map_nameCharacter plain, String.ofList_toList]

/-- A point in time that can be kept. -/
structure Stamp.Fits (s : Stamp) : Prop where
  year : 1980 ≤ s.year ∧ s.year < 2108
  month : s.month < 16
  day : s.day < 32
  hour : s.hour < 32
  minute : s.minute < 64
  second : s.second < 64 ∧ s.second % 2 = 0

theorem Stamp.ofWords_toWords {s : Stamp} (h : s.Fits) :
    Stamp.ofWords s.toWords.1 s.toWords.2 = s := by
  obtain ⟨year, month, day, hour, minute, second⟩ := s
  obtain ⟨hy, hmo, hd, hh, hmi, hs⟩ := h
  simp only [ofWords, toWords, Stamp.mk.injEq] at *
  omega

theorem Stamp.toWords_lt {s : Stamp} (h : s.Fits) :
    s.toWords.1 < 0x10000 ∧ s.toWords.2 < 0x10000 := by
  obtain ⟨year, month, day, hour, minute, second⟩ := s
  obtain ⟨hy, hmo, hd, hh, hmi, hs⟩ := h
  simp only [toWords] at *
  omega

theorem length_le_storedBlocks (data : Bytes) : data.length ≤ (storedBlocks data).length := by
  fun_induction storedBlocks data with
  | case1 data short => simp only [storedBlock, List.length_cons, List.length_append]; omega
  | case2 data long ih =>
    simp only [storedBlock, List.length_cons, List.length_append, List.length_take,
      List.length_drop] at ih ⊢
    omega

theorem length_le_packed (e : Entry) : e.data.length ≤ (packed e).length := by
  rw [packed]
  split_ifs
  · exact length_le_storedBlocks e.data
  · exact le_rfl

/-! ## Directory records -/

theorem widths_headerFields (e : Entry) :
    (headerFields e).map Prod.fst = [2, 2, 2, 2, 2, 4, 4, 4, 2, 2] := rfl

theorem widths_recordFields (e : Entry) (offset : Nat) :
    (recordFields e offset).map Prod.fst =
      [1, 1, 1, 1, 2, 2, 2, 2, 4, 4, 4, 2, 2, 2, 2, 2, 4, 4] := rfl

theorem length_header (e : Entry) :
    (entryMark ++ fieldsBytes (headerFields e)).length = entryHeaderSize := by
  rw [List.length_append, length_fieldsBytes, widths_headerFields]
  rfl

theorem length_record (e : Entry) (offset : Nat) :
    (directoryMark ++ fieldsBytes (recordFields e offset)).length = directoryRecordSize := by
  rw [List.length_append, length_fieldsBytes, widths_recordFields]
  rfl

theorem length_entryBytes (e : Entry) :
    (entryBytes e).length =
      entryHeaderSize + ((nameBytes e).length + e.extra.length + (packed e).length) := by
  rw [entryBytes, List.length_append, length_header, List.length_append, List.length_append]

/-- Where an entry ends within reach, so do its data and its packed data. -/
theorem sizes_lt {e : Entry} {offset : Nat} (h : offset + (entryBytes e).length < largeNumber) :
    offset < largeNumber ∧ (packed e).length < largeNumber ∧ e.data.length < largeNumber := by
  have inside := length_le_packed e
  rw [length_entryBytes] at h
  omega

theorem length_recordBytes (e : Entry) (offset : Nat) :
    (recordBytes e offset).length =
      directoryRecordSize + ((nameBytes e).length + e.extra.length + e.comment.length) := by
  rw [recordBytes, List.length_append, length_record, List.length_append, List.length_append]

/-- An entry whose properties fit into the fields of a directory record, and whose data can be
unpacked from its bytes. -/
structure Entry.Fits (e : Entry) : Prop where
  undamaged : e.damage = none
  packing : e.method < 0x10000 ∧ e.method ≠ 12 ∧ e.method ≠ 14
  stamp : e.stamp.Fits
  system : e.system < 0x100
  attributes : e.attributes < 0x100000000
  flags : e.flags < 0x10000
  name : (nameBytes e).length < 0x10000
  extra : e.extra.length < 0x10000
  comment : e.comment.length < 0x10000

/-- The entry with its name marked as UTF-8 if need be. -/
def Entry.marked (e : Entry) : Entry :=
  { e with flags := e.flags ||| nameFlags e.name }

/-- An entry as the directory lists it if its header is at an offset. -/
def listed (e : Entry) (offset : Nat) : Listed where
  entry := { e.marked.cutName with data := [] }
  name := e.name
  extent := ⟨e.data.length, (packed e).length, offset⟩

/-- Numbers that do not stand for larger ones are kept. -/
theorem Extent.enlarge_eq {x : Extent} (size : x.size < largeNumber)
    (packedSize : x.packedSize < largeNumber) (offset : x.offset < largeNumber) (data : Bytes) :
    x.enlarge data = .ok x := by
  have small (what : String) {isLarge : Bool} (h : isLarge = false) (n : Nat) :
      number what isLarge n data = .ok (n, data) := by
    rw [number, h]
    rfl
  have far : x.size ≠ 0xFFFFFFFFFFFFFFFF := ne_of_lt (lt_trans size (by decide))
  rw [enlarge, small _ (by simp [size.ne, far])]
  change (number _ _ _ data >>= _) = _
  rw [small _ (by simp [packedSize.ne])]
  change (number _ _ _ data >>= _) = _
  rw [small _ (by simp [offset.ne])]
  rfl

theorem Extent.withExtra_eq {x : Extent} (size : x.size < largeNumber)
    (packedSize : x.packedSize < largeNumber) (offset : x.offset < largeNumber) (extra : Bytes) :
    x.withExtra extra =
      match shortRecord? extra with
      | some record => .error (.corruptExtra record)
      | none => .ok x := by
  fun_induction shortRecord? extra with
  | case1 a b c d body size' short =>
    rw [withExtra]
    exact if_pos short
  | case2 a b c d body size' sound ih =>
    rw [withExtra, if_neg sound]
    change (if word a b = largeEntryId then x.enlarge (body.take size') >>= _ else _) = _
    split_ifs
    · rw [enlarge_eq size packedSize offset]
      exact ih
    · exact ih
  | case3 field few =>
    rw [withExtra]
    exact few

theorem neededVersion_le (method : Nat) : neededVersion method ≤ latestVersion := by
  rw [neededVersion]
  split_ifs <;> decide

theorem flags_lt {flags : Nat} (h : flags < 0x10000) (name : String) :
    flags ||| nameFlags name < 0x10000 := by
  refine Nat.or_lt_two_pow (n := 16) h ?_
  rw [nameFlags]
  split_ifs <;> decide

/-- Bytes that begin with the directory record of an entry whose header is at an offset. -/
structure Lists (record : Bytes) (e : Entry) (offset : Nat) (rest : Bytes) : Prop where
  mark : directoryMark.isPrefixOf record
  system : field record 5 1 = e.system
  version : field record 6 1 = neededVersion e.method
  flags : field record 8 2 = e.flags ||| nameFlags e.name
  method : field record 10 2 = e.method
  time : field record 12 2 = e.stamp.toWords.1
  date : field record 14 2 = e.stamp.toWords.2
  declared : field record 16 4 = e.declared.toNat
  packedSize : field record 20 4 = (packed e).length
  size : field record 24 4 = e.data.length
  nameSize : field record 28 2 = (nameBytes e).length
  extraSize : field record 30 2 = e.extra.length
  commentSize : field record 32 2 = e.comment.length
  attributes : field record 38 4 = e.attributes
  place : field record 42 4 = offset
  tail : record.drop directoryRecordSize = nameBytes e ++ (e.extra ++ (e.comment ++ rest))

section

variable {e : Entry} {offset : Nat}

theorem recordBytes_append (e : Entry) (offset : Nat) (rest : Bytes) :
    recordBytes e offset ++ rest = directoryMark ++ fieldsBytes (recordFields e offset) ++
      (nameBytes e ++ (e.extra ++ (e.comment ++ rest))) := by
  simp only [recordBytes, List.append_assoc]

theorem field_recordBytes {rest : Bytes} {start width n : Nat} (i : Nat)
    (here : (recordFields e offset)[i]? = some (width, n))
    (place : start = directoryMark.length +
      Numeric.total ([1, 1, 1, 1, 2, 2, 2, 2, 4, 4, 4, 2, 2, 2, 2, 2, 4, 4].take i))
    (room : n < Nat.pow 256 width) : field (recordBytes e offset ++ rest) start width = n := by
  rw [recordBytes_append]
  exact field_fieldsBytes i here place room _

theorem lists_recordBytes (fits : e.Fits) (reached : offset + (entryBytes e).length < largeNumber)
    (rest : Bytes) : Lists (recordBytes e offset ++ rest) e offset rest := by
  obtain ⟨offsetRoom, packedRoom, dataRoom⟩ := sizes_lt reached
  have words := Stamp.toWords_lt fits.stamp
  have bits : e.flags ||| nameFlags e.name < 0x10000 := flags_lt fits.flags e.name
  have needed : neededVersion e.method < 0x100 :=
    lt_of_le_of_lt (neededVersion_le e.method) (by decide)
  have inFour {n : Nat} (h : n < largeNumber) : n < Nat.pow 256 4 := lt_trans h (by decide)
  exact
    { mark := by
        rw [List.isPrefixOf_iff_prefix, recordBytes_append]
        simp only [List.append_assoc, List.prefix_append]
      system := field_recordBytes 1 rfl rfl fits.system
      version := field_recordBytes 2 rfl rfl needed
      flags := field_recordBytes 4 rfl rfl bits
      method := field_recordBytes 5 rfl rfl fits.packing.1
      time := field_recordBytes 6 rfl rfl words.1
      date := field_recordBytes 7 rfl rfl words.2
      declared := field_recordBytes 8 rfl rfl e.declared.toNat_lt
      packedSize := field_recordBytes 9 rfl rfl (inFour packedRoom)
      size := field_recordBytes 10 rfl rfl (inFour dataRoom)
      nameSize := field_recordBytes 11 rfl rfl fits.name
      extraSize := field_recordBytes 12 rfl rfl fits.extra
      commentSize := field_recordBytes 13 rfl rfl fits.comment
      attributes := field_recordBytes 16 rfl rfl fits.attributes
      place := field_recordBytes 17 rfl rfl (inFour offsetRoom)
      tail := by
        rw [recordBytes_append]
        exact List.drop_left' (length_record e offset) }

/-- **The record of an entry lists it,** if its extra field is sound. -/
theorem Lists.ofRecord {record rest : Bytes} (h : Lists record e offset rest) (fits : e.Fits)
    (reached : offset + (entryBytes e).length < largeNumber) :
    Listed.ofRecord record = (fun _ => listed e offset) <$> e.opened := by
  obtain ⟨offsetRoom, packedRoom, dataRoom⟩ := sizes_lt reached
  have comment : ((nameBytes e ++ (e.extra ++ (e.comment ++ rest))).drop
      ((nameBytes e).length + e.extra.length)).take e.comment.length = e.comment := by
    rw [← List.drop_drop, List.drop_left, List.drop_left, List.take_left]
  have version : ¬ latestVersion < neededVersion e.method :=
    Nat.not_lt.2 (neededVersion_le e.method)
  have extent := Extent.withExtra_eq (x := ⟨e.data.length, (packed e).length, offset⟩)
    dataRoom packedRoom offsetRoom e.extra
  simp only [Listed.ofRecord, h.system, h.version, h.flags, h.method, h.time, h.date, h.declared,
    h.packedSize, h.size, h.nameSize, h.extraSize, h.commentSize, h.attributes, h.place, h.tail,
    List.take_left, List.drop_left, comment, nameOfBytes_nameBytes, if_neg version, extent,
    Stamp.ofWords_toWords fits.stamp, UInt32.ofNat_toNat]
  rw [Entry.opened]
  cases shortRecord? e.extra with
  | some fault => rfl
  | none =>
    obtain ⟨name, stamp, method, system, attributes, comment, extra, flags, declared, data,
        damage⟩ := e
    obtain rfl : damage = none := fits.undamaged
    rfl

end

/-! ## The directory -/

/-- Entries as the directory lists them if the header of the first one is at an offset. -/
def listing (offset : Nat) : List Entry → List Listed
  | [] => []
  | e :: rest => listed e offset :: listing (offset + (entryBytes e).length) rest

/-- **The directory lists all entries,** or has the fault of the first that does not open. -/
theorem readDirectory_directoryBytes {es : List Entry} (fits : ∀ e ∈ es, e.Fits) {offset : Nat}
    (reached : offset + (es.flatMap entryBytes).length < largeNumber) :
    readDirectory (directoryBytes offset es) =
      (fun _ => listing offset es) <$> es.mapM Entry.opened := by
  induction es generalizing offset with
  | nil =>
    rw [directoryBytes, readDirectory]
    rfl
  | cons e rest ih =>
    rw [List.forall_mem_cons] at fits
    rw [List.flatMap_cons, List.length_append] at reached
    have h := lists_recordBytes fits.1 (by omega : offset + (entryBytes e).length < largeNumber)
      (directoryBytes (offset + (entryBytes e).length) rest)
    have room :
        offset + (entryBytes e).length + (rest.flatMap entryBytes).length < largeNumber := by
      omega
    have others := ih fits.2 room
    have long : directoryRecordSize ≤ (directoryBytes offset (e :: rest)).length := by
      rw [directoryBytes, List.length_append, length_recordBytes]
      omega
    have size : directoryRecordSize + (nameBytes e).length + e.extra.length + e.comment.length =
        (recordBytes e offset).length := by
      rw [length_recordBytes]
      omega
    rw [readDirectory, if_neg, if_neg (Nat.not_lt.2 long), directoryBytes, if_pos h.mark,
      h.nameSize, h.extraSize, h.commentSize, size]
    · dsimp only
      rw [List.drop_left, h.ofRecord fits.1 (by omega), others, List.mapM_cons]
      cases e.opened with
      | error fault => rfl
      | ok e' => cases rest.mapM Entry.opened <;> rfl
    · rw [List.isEmpty_iff, ← List.length_eq_zero_iff]
      have : directoryRecordSize = 46 := rfl
      omega

end SlideMerge.Archive
