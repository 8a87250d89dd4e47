import Mathlib.Order.Monotone.Basic
import SlideMerge.Proofs.Directory
import SlideMerge.Proofs.Filling
import SlideMerge.Proofs.Inflate

/-!
# A written archive is found in its bytes

**Theorem (`ofBytes_toBytes`).** If the properties of an archive fit into their fields and nothing
in its bytes misleads a reader, then what a reader of the bytes finds is the archive, opened. All
that has changed are the flags of the entries whose names are marked as UTF-8.

* **Entries.** The header of an entry is where the directory says, the names agree, and the data is
  unpacked as it has been packed (`data_listed`). Headers stand in the order of the entries, so an
  entry reaches as far as the next header and no further (`le_limitOf`).
* **The end record.** Without a comment it is at the very end. Behind a comment it is the last place
  with its mark, since `endsOnce` rules out that another mark begins in the comment or in its length
  (`find?_toBytes`).

**Theorem (`rewrite_toBytes`).** A written archive is filled like its bytes. Filling reads no flag
that marks a name (`fillOpened_alike`), and where a reader is misled, the archive that it finds is
by definition the one that is filled.
-/

namespace SlideMerge.Archive

open Text

/-! ## Entries -/

/-- **Data is unpacked as it has been packed.** -/
theorem readData_packed {e : Entry} (fits : e.Fits) (offset : Nat) (rest : Bytes) :
    readData e.method ⟨e.data.length, (packed e).length, offset⟩ (packed e ++ rest) =
      .ok e.data := by
  obtain ⟨-, unpackable, unpackable'⟩ := fits.packing
  have present : ¬ (packed e = [] ∧ 0 < (packed e).length) := fun h =>
    absurd (congrArg List.length h.1) (Nat.ne_of_gt h.2)
  simp only [readData, List.take_left]
  by_cases known : e.method ∈ knownMethods
  · have here : e.method = 0 ∨ e.method = 8 := by
      simpa [knownMethods, unpackable, unpackable'] using known
    rw [if_neg (not_not.2 known), if_neg (by omega), if_neg present]
    rcases here with stored | deflated
    · have same : packed e = e.data := if_neg (by omega)
      simp [stored, same, bind, Except.bind]
    · have same : packed e = storedBlocks e.data := if_pos deflated
      simp [deflated, same, inflate_storedBlocks, bind, Except.bind, Except.mapError]
  · have same : packed e = e.data :=
      if_neg fun deflated => known (by rw [deflated]; decide)
    rw [if_pos known, same]

theorem entryBytes_append (e : Entry) (after : Bytes) :
    entryBytes e ++ after = entryMark ++ fieldsBytes (headerFields e) ++
      (nameBytes e ++ (e.extra ++ (packed e ++ after))) := by
  simp only [entryBytes, List.append_assoc]

theorem field_entryBytes {e : Entry} {after : Bytes} {start width n : Nat} (i : Nat)
    (here : (headerFields e)[i]? = some (width, n))
    (place : start = entryMark.length + Numeric.total ([2, 2, 2, 2, 2, 4, 4, 4, 2, 2].take i))
    (room : n < Nat.pow 256 width) : field (entryBytes e ++ after) start width = n := by
  rw [entryBytes_append]
  exact field_fieldsBytes i here place room _

theorem drop_entryHeader (e : Entry) (after : Bytes) :
    (entryBytes e ++ after).drop entryHeaderSize =
      nameBytes e ++ (e.extra ++ (packed e ++ after)) := by
  rw [entryBytes_append]
  exact List.drop_left' (length_header e)

theorem mark_entryBytes (e : Entry) (after : Bytes) :
    entryMark.isPrefixOf (entryBytes e ++ after) := by
  rw [List.isPrefixOf_iff_prefix, entryBytes_append]
  simp only [List.append_assoc, List.prefix_append]

/-- **The data of an entry is found where the directory says,** if there is room for it. -/
theorem data_listed {e : Entry} (fits : e.Fits) (before after : Bytes) {limit : Int}
    (near : before.length < largeNumber)
    (room : ((before.length + (entryBytes e).length : Nat) : Int) ≤ limit) :
    (listed e before.length).data (before ++ (entryBytes e ++ after)) before.length limit =
      .ok e.data := by
  have flags : field (entryBytes e ++ after) 6 2 = e.flags ||| nameFlags e.name :=
    field_entryBytes 1 rfl rfl (flags_lt fits.flags e.name)
  have nameSize : field (entryBytes e ++ after) 26 2 = (nameBytes e).length :=
    field_entryBytes 8 rfl rfl fits.name
  have extraSize : field (entryBytes e ++ after) 28 2 = e.extra.length :=
    field_entryBytes 9 rfl rfl fits.extra
  have size := length_entryBytes e
  have far : ¬ ((before.length : Int) < 0 ∨ Int.pow 2 63 ≤ before.length) := by
    have reach : (largeNumber : Int) < Int.pow 2 63 := by decide
    omega
  have long : ¬ (entryBytes e ++ after).length < entryHeaderSize := by
    rw [List.length_append]
    omega
  have fitted : ¬ limit < (before ++ (entryBytes e ++ after)).length - (packed e ++ after).length +
      (listed e before.length).extent.packedSize := by
    simp only [listed, List.length_append]
    omega
  simp only [Listed.data, Int.toNat_natCast, List.drop_left, flags, nameSize, extraSize,
    ← List.drop_drop, drop_entryHeader, List.take_left, nameOfBytes_nameBytes, if_neg far,
    if_neg long, mark_entryBytes, not_true_eq_false, if_false]
  exact (if_neg (not_not.2 rfl)).trans
    ((if_neg fitted).trans (readData_packed fits before.length after))

/-- Where the header of an entry is, by its place among others. -/
def offsetOf (es : List Entry) (index : Nat) : Nat :=
  ((es.take index).flatMap entryBytes).length

theorem offsetOf_length (es : List Entry) :
    offsetOf es es.length = (es.flatMap entryBytes).length := by
  rw [offsetOf, List.take_length]

theorem offsetOf_succ {es : List Entry} {index : Nat} (h : index < es.length) :
    offsetOf es (index + 1) = offsetOf es index + (entryBytes es[index]).length := by
  rw [offsetOf, List.take_succ_eq_append_getElem h, List.flatMap_append, List.length_append,
    List.flatMap_singleton]
  rfl

theorem monotone_offsetOf (es : List Entry) : Monotone (offsetOf es) := by
  refine monotone_nat_of_le_succ fun index => ?_
  by_cases h : index < es.length
  · rw [offsetOf_succ h]
    exact Nat.le_add_right _ _
  · rw [offsetOf, offsetOf, List.take_of_length_le (Nat.not_lt.1 h),
      List.take_of_length_le (Nat.le_succ_of_le (Nat.not_lt.1 h))]

theorem offsetOf_lt {es : List Entry} {i j : Nat} (h : i < es.length) (before : i < j) :
    offsetOf es i + (entryBytes es[i]).length ≤ offsetOf es j := by
  rw [← offsetOf_succ h]
  exact monotone_offsetOf es before

theorem getElem?_listing (offset : Nat) (es : List Entry) (index : Nat) :
    (listing offset es)[index]? =
      es[index]?.map fun e => listed e (offset + offsetOf es index) := by
  induction es generalizing offset index with
  | nil => rfl
  | cons e rest ih =>
    cases index with
    | zero => rfl
    | succ index =>
      rw [listing, List.getElem?_cons_succ, List.getElem?_cons_succ, ih]
      simp only [offsetOf, List.take_succ_cons, List.flatMap_cons, List.length_append,
        Nat.add_assoc]

/-- Where the headers of entries are. -/
def placesOf (es : List Entry) : List Int :=
  (List.range es.length).map fun index => (offsetOf es index : Int)

theorem le_limitOf {es : List Entry} {index : Nat} (h : index < es.length) :
    ((offsetOf es index + (entryBytes es[index]).length : Nat) : Int) ≤
      limitOf (es.flatMap entryBytes).length (placesOf es) index := by
  have place : (placesOf es).getD index 0 = offsetOf es index := by
    simp [placesOf, h]
  have later {j : Nat} (far : offsetOf es index < offsetOf es j) : index < j :=
    Nat.lt_of_not_le fun le => Nat.not_lt.2 (monotone_offsetOf es le) far
  have first : (offsetOf es index : Int) ∉ (placesOf es).take index := by
    intro again
    obtain ⟨i, hi, same⟩ : ∃ i < index, (offsetOf es i : Int) = offsetOf es index := by
      simpa [placesOf, ← List.map_take, List.take_range, h.le] using again
    have before := offsetOf_lt (hi.trans h) hi
    rw [length_entryBytes, entryHeaderSize] at before
    omega
  rw [limitOf, place, if_neg first]
  cases hmin : ((placesOf es).filter ((offsetOf es index : Int) < ·)).min? with
  | none =>
    have last := offsetOf_lt h h
    rw [offsetOf_length] at last
    exact Int.ofNat_le.2 last
  | some m =>
    have hm := List.min?_mem hmin
    obtain ⟨⟨j, -, rfl⟩, far⟩ : (∃ j < es.length, (offsetOf es j : Int) = m) ∧ _ < m := by
      simpa [placesOf] using hm
    exact Int.ofNat_le.2 (offsetOf_lt h (later (Int.ofNat_lt.1 far)))

/-! ## The end record -/

theorem lastEndMark?_eq_none {location : Nat} {bytes : Bytes} :
    lastEndMark? location bytes = none ↔ ¬ endMark <:+: bytes := by
  induction bytes generalizing location with
  | nil => exact iff_of_true rfl (by decide)
  | cons b rest ih =>
    rw [lastEndMark?, List.infix_cons_iff, not_or, ← @ih (location + 1),
      ← List.isPrefixOf_iff_prefix]
    cases lastEndMark? (location + 1) rest with
    | some found => simp
    | none => simp

theorem lastEndMark?_append {bytes : Bytes} (mark : endMark <+: bytes)
    (last : ¬ endMark <:+: bytes.tail) (location : Nat) (before : Bytes) :
    lastEndMark? location (before ++ bytes) = some (location + before.length, bytes) := by
  induction before generalizing location with
  | nil =>
    cases bytes with
    | nil => exact absurd mark (by decide)
    | cons b rest =>
      rw [List.tail_cons] at last
      rw [List.nil_append, lastEndMark?, lastEndMark?_eq_none.2 last]
      exact if_pos (List.isPrefixOf_iff_prefix.2 mark)
  | cons b before ih =>
    rw [List.cons_append, lastEndMark?, ih]
    simp only [List.length_cons, Nat.add_assoc, Nat.add_comm 1]

/-- Where the end record of an archive is. -/
def endOffset (a : Archive) : Nat :=
  (bodyBytes a).length + (directoryBytes 0 a.entries).length

def endRecord (a : Archive) : EndRecord where
  location := endOffset a
  gap := 0
  directorySize := (directoryBytes 0 a.entries).length
  directoryOffset := (bodyBytes a).length
  comment := a.comment

theorem length_end (a : Archive) :
    (endMark ++ fieldsBytes (endFields a)).length = endRecordSize := by
  rw [List.length_append, length_fieldsBytes]
  rfl

theorem length_endBytes (a : Archive) : (endBytes a).length = endRecordSize + a.comment.length := by
  rw [endBytes, List.length_append, length_end]

theorem toBytes_eq (a : Archive) :
    toBytes a = (bodyBytes a ++ directoryBytes 0 a.entries) ++ endBytes a := rfl

theorem length_toBytes (a : Archive) :
    (toBytes a).length = endOffset a + (endRecordSize + a.comment.length) := by
  rw [toBytes_eq, List.length_append, List.length_append, length_endBytes, endOffset]

section

variable {a : Archive}

theorem field_endBytes {start width n : Nat} (i : Nat) (here : (endFields a)[i]? = some (width, n))
    (place : start = endMark.length + Numeric.total ([2, 2, 2, 2, 4, 4, 2].take i))
    (room : n < Nat.pow 256 width) : field (endBytes a) start width = n :=
  field_fieldsBytes i here place room a.comment

theorem mark_endBytes : endMark <+: endBytes a := by
  simp only [endBytes, List.append_assoc, List.prefix_append]

theorem drop_endOffset : (toBytes a).drop (endOffset a) = endBytes a := by
  rw [toBytes_eq]
  exact List.drop_left' List.length_append

theorem read?_endBytes (comment : a.comment.length < 0x10000)
    (small : (toBytes a).length < largeNumber) :
    EndRecord.read? (endOffset a) (endBytes a) = some (endRecord a) := by
  rw [length_toBytes, endOffset] at small
  have room {n : Nat} (h : n < largeNumber) : n < Nat.pow 256 4 := lt_trans h (by decide)
  have size : field (endBytes a) 12 4 = (directoryBytes 0 a.entries).length :=
    field_endBytes 4 rfl rfl (room (by omega))
  have offset : field (endBytes a) 16 4 = (bodyBytes a).length :=
    field_endBytes 5 rfl rfl (room (by omega))
  have commentSize : field (endBytes a) 20 2 = a.comment.length := field_endBytes 6 rfl rfl comment
  have tail : (endBytes a).drop endRecordSize = a.comment := List.drop_left' (length_end a)
  rw [EndRecord.read?, if_neg (by rw [length_endBytes]; omega), size, offset, commentSize, tail,
    List.take_length]
  rfl

/-- Without a comment the end record stands at the very end. -/
theorem find?_of_nil (h : a.comment = []) :
    EndRecord.find? (toBytes a) = EndRecord.read? (endOffset a) (endBytes a) := by
  have place : (toBytes a).length - endRecordSize = endOffset a := by
    rw [length_toBytes, h, List.length_nil]
    omega
  have complete : (endBytes a).length = endRecordSize := by
    rw [length_endBytes, h]
    rfl
  have noComment : field (endBytes a) 20 2 = 0 :=
    field_endBytes (n := 0) 6 (by simp [endFields, h]) rfl (by decide)
  simp only [EndRecord.find?, place, drop_endOffset]
  exact if_pos ⟨complete, List.isPrefixOf_iff_prefix.2 mark_endBytes, noComment⟩

/-- Behind a comment the end record is found by its mark, if there is no mark after it. The comment
may end in what looks like an end record; but such a record has a mark too. -/
theorem find?_of_not_infix (h : a.comment ≠ []) (comment : a.comment.length < 0x10000)
    (last : ¬ endMark <:+: (endBytes a).tail) :
    EndRecord.find? (toBytes a) = EndRecord.read? (endOffset a) (endBytes a) := by
  have before : (bodyBytes a ++ directoryBytes 0 a.entries).length = endOffset a :=
    List.length_append
  have some : 0 < a.comment.length := List.length_pos_iff.2 h
  have elsewhere : ¬ endMark <+: (toBytes a).drop ((toBytes a).length - endRecordSize) := by
    intro again
    refine last (again.isInfix.trans ?_)
    rw [length_toBytes, show endOffset a + (endRecordSize + a.comment.length) - endRecordSize =
      endOffset a + (1 + (a.comment.length - 1)) by omega, ← List.drop_drop, drop_endOffset,
      ← List.drop_drop, List.drop_one]
    exact (List.drop_suffix _ _).isInfix
  generalize hstart : (toBytes a).length - maxCommentSize - endRecordSize = start
  have within : start ≤ endOffset a := by
    rw [← hstart, length_toBytes, maxCommentSize]
    omega
  have window : (toBytes a).drop start =
      (bodyBytes a ++ directoryBytes 0 a.entries).drop start ++ endBytes a := by
    rw [toBytes_eq]
    exact List.drop_append_of_le_length (before ▸ within)
  have place : start + ((bodyBytes a ++ directoryBytes 0 a.entries).drop start).length =
      endOffset a := by
    rw [List.length_drop, before]
    omega
  simp only [EndRecord.find?, hstart]
  rw [if_neg fun record => elsewhere (List.isPrefixOf_iff_prefix.1 record.2.1), window,
    lastEndMark?_append mark_endBytes last, place]

/-- **The end record that is found is the end record of the archive.** -/
theorem find?_toBytes (comment : a.comment.length < 0x10000)
    (small : (toBytes a).length < largeNumber) (once : a.endsOnce) :
    EndRecord.find? (toBytes a) = some (endRecord a) := by
  rw [← read?_endBytes comment small]
  rw [endsOnce, Bool.and_eq_true, Bool.or_eq_true] at once
  by_cases h : a.comment = []
  · exact find?_of_nil h
  · have none := once.1.resolve_left (mt List.isEmpty_iff.1 h)
    exact find?_of_not_infix h comment (lastEndMark?_eq_none.1 (Option.isNone_iff_eq_none.1 none))

theorem locatorSize_le (h : a.entries ≠ []) :
    locatorSize ≤ (directoryBytes 0 a.entries).length := by
  obtain ⟨e, rest, he⟩ := List.exists_cons_of_ne_nil h
  have large : locatorSize ≤ directoryRecordSize := by decide
  rw [he, directoryBytes, List.length_append, length_recordBytes]
  omega

/-- What stands before the end record is the end of the directory, if there are entries. -/
theorem take_locator (h : a.entries ≠ []) :
    ((toBytes a).drop (endOffset a - locatorSize)).take locatorSize =
      (directoryBytes 0 a.entries).drop ((directoryBytes 0 a.entries).length - locatorSize) := by
  have room := locatorSize_le h
  have place : endOffset a - locatorSize =
      (bodyBytes a).length + ((directoryBytes 0 a.entries).length - locatorSize) := by
    rw [endOffset]
    omega
  rw [toBytes, List.append_assoc, place, ← List.drop_drop, List.drop_left,
    List.drop_append_of_le_length (Nat.sub_le _ _)]
  refine List.take_left' ?_
  rw [List.length_drop]
  omega

theorem enlarge_endRecord (once : a.endsOnce) :
    (endRecord a).enlarge (toBytes a) = .ok (endRecord a) := by
  have absent : ¬ locatorMark.isPrefixOf
      (((toBytes a).drop (endOffset a - locatorSize)).take locatorSize) := by
    by_cases h : a.entries = []
    · have start : endOffset a = 0 := by
        simp [endOffset, bodyBytes, directoryBytes, h]
      rw [start, Nat.zero_sub, ← start, drop_endOffset]
      simp [endBytes, endMark, locatorMark, locatorSize]
    · rw [endsOnce, Bool.and_eq_true, Bool.not_eq_true'] at once
      rw [take_locator h, once.2]
      exact Bool.false_ne_true
  rw [EndRecord.enlarge]
  exact if_pos (Or.inr absent)

end

/-! ## Archives -/

/-- An archive whose properties fit into their fields, and whose data can be unpacked from its
bytes. -/
structure Fits (a : Archive) : Prop where
  entries : ∀ e ∈ a.entries, e.Fits
  comment : a.comment.length < 0x10000
  size : (toBytes a).length < largeNumber

/-- The archive with its names marked as UTF-8 where need be. -/
def marked (a : Archive) : Archive :=
  ⟨a.comment, a.entries.map Entry.marked⟩

theorem mapM_opened_marked (es : List Entry) :
    (es.map Entry.marked).mapM Entry.opened =
      (fun _ => es.map fun e => e.marked.cutName) <$> es.mapM Entry.opened := by
  induction es with
  | nil => rfl
  | cons e rest ih =>
    have first : e.marked.opened = (fun _ => e.marked.cutName) <$> e.opened := by
      rw [Entry.opened, Entry.opened, show e.marked.extra = e.extra from rfl]
      cases shortRecord? e.extra <;> rfl
    rw [List.map_cons, List.mapM_cons, List.mapM_cons, first, ih]
    cases e.opened with
    | error fault => rfl
    | ok e' => cases rest.mapM Entry.opened <;> rfl

theorem opened_marked (a : Archive) :
    a.marked.opened =
      (fun _ => ⟨a.comment, a.entries.map fun e => e.marked.cutName⟩) <$> a.opened := by
  simp only [opened, marked, mapM_opened_marked]
  cases a.entries.mapM Entry.opened <;> rfl

theorem length_listing (offset : Nat) (es : List Entry) :
    (listing offset es).length = es.length := by
  induction es generalizing offset with
  | nil => rfl
  | cons e rest ih => rw [listing, List.length_cons, List.length_cons, ih]

theorem getElem_listing {offset : Nat} {es : List Entry} {index : Nat}
    (h : index < (listing offset es).length) (h' : index < es.length) :
    (listing offset es)[index] = listed es[index] (offset + offsetOf es index) := by
  have found := getElem?_listing offset es index
  rw [List.getElem?_eq_getElem h, List.getElem?_eq_getElem h', Option.map_some] at found
  exact Option.some.inj found

theorem places_listing (es : List Entry) :
    ((listing 0 es).map fun l => (0 : Int) + l.extent.offset) = placesOf es := by
  refine List.ext_getElem (by simp [length_listing, placesOf]) fun index h h' => ?_
  have inside : index < es.length := by simpa [placesOf] using h'
  simp only [List.getElem_map, getElem_listing _ inside, placesOf, List.getElem_range, listed,
    Nat.zero_add, Int.zero_add]

/-- **An entry that is listed is found,** with its name cut off. -/
theorem complete_listed {a : Archive} (fits : a.Fits) {index : Nat} (h : index < a.entries.length) :
    (listed a.entries[index] (offsetOf a.entries index)).complete (toBytes a)
      ((placesOf a.entries).getD index 0)
      (limitOf (bodyBytes a).length (placesOf a.entries) index) =
        a.entries[index].marked.cutName := by
  have place : (placesOf a.entries).getD index 0 = offsetOf a.entries index := by
    simp [placesOf, h]
  have cut : toBytes a =
      (a.entries.take index).flatMap entryBytes ++ (entryBytes a.entries[index] ++
      ((a.entries.drop (index + 1)).flatMap entryBytes ++
        (directoryBytes 0 a.entries ++ endBytes a))) := by
    have body : bodyBytes a = (a.entries.take index).flatMap entryBytes ++
        (entryBytes a.entries[index] ++ (a.entries.drop (index + 1)).flatMap entryBytes) := by
      rw [bodyBytes, ← List.flatMap_cons, ← List.flatMap_append, ← List.drop_eq_getElem_cons h,
        List.take_append_drop]
    simp only [toBytes, body, List.append_assoc]
  have near : offsetOf a.entries index < largeNumber := by
    have size := congrArg List.length cut
    rw [List.length_append] at size
    have small := fits.size
    rw [offsetOf]
    omega
  have data : (listed a.entries[index] (offsetOf a.entries index)).data (toBytes a)
      (offsetOf a.entries index) (limitOf (bodyBytes a).length (placesOf a.entries) index) =
        .ok a.entries[index].data := by
    rw [cut]
    exact data_listed (fits.entries _ (List.getElem_mem h)) _ _ near (le_limitOf h)
  rw [Listed.complete, place, data]
  rfl

/-- **The entries that are found are those of the archive.** -/
theorem complete_listing {a : Archive} (fits : a.Fits) :
    ((listing 0 a.entries).zipIdx.map fun l =>
      l.1.complete (toBytes a) ((placesOf a.entries).getD l.2 0)
        (limitOf (bodyBytes a).length (placesOf a.entries) l.2)) =
      a.entries.map fun e => e.marked.cutName := by
  refine List.ext_getElem (by simp [length_listing]) fun index h h' => ?_
  have inside : index < a.entries.length := by simpa using h'
  simp only [List.getElem_map, List.getElem_zipIdx, getElem_listing _ inside, Nat.zero_add]
  exact complete_listed fits inside

/-- **A reader of its bytes finds a written archive,** opened. -/
theorem ofBytes_toBytes {a : Archive} (fits : a.Fits) (once : a.endsOnce) :
    ofBytes (toBytes a) = a.marked.opened := by
  have reached : 0 + (a.entries.flatMap entryBytes).length < largeNumber := by
    have size := fits.size
    rw [length_toBytes, endOffset, bodyBytes] at size
    omega
  have order : ¬ (endRecord a).location < (endRecord a).directorySize + (endRecord a).gap := by
    simp only [endRecord, endOffset]
    omega
  have start : (endRecord a).location - (endRecord a).gap - (endRecord a).directorySize =
      (bodyBytes a).length := by
    simp only [endRecord, endOffset]
    omega
  have directory : ((toBytes a).drop (bodyBytes a).length).take (endRecord a).directorySize =
      directoryBytes 0 a.entries := by
    rw [toBytes, List.append_assoc, List.drop_left]
    exact List.take_left
  have base : ((bodyBytes a).length : Int) - (endRecord a).directoryOffset = 0 := Int.sub_self _
  have found : ofBytes (toBytes a) = (endRecord a).archive (toBytes a) := by
    unfold ofBytes
    simp only [find?_toBytes fits.comment fits.size once, enlarge_endRecord once, bind, Except.bind]
  rw [found, EndRecord.archive, if_neg order]
  simp only [start, base, directory]
  rw [readDirectory_directoryBytes fits.entries reached, opened_marked, opened]
  cases a.entries.mapM Entry.opened with
  | error fault => rfl
  | ok _ =>
    simp only [Functor.map, Except.map, bind, Except.bind, places_listing, complete_listing fits]
    rfl

/-- Of a packed entry whose name is not ASCII only the flags have changed. -/
example :
    let e : Entry :=
      { name := "é"
        stamp := .first
        method := 8
        system := 3
        attributes := 1
        comment := [33]
        extra := [7, 0, 1, 0, 9]
        flags := 0
        declared := checksum [65, 66]
        data := [65, 66] }
    ofBytes (toBytes ⟨[33], [e]⟩) = .ok ⟨[33], [{ e with flags := 0x800 }]⟩ := by
  decide +kernel

end SlideMerge.Archive

namespace SlideMerge.Deck

open Text Archive Mapping Placeholder Workbook

variable {ε : Type} {encoding : Encoding} {resolve : Spec → Except ε String}

/-! ## Templates -/

/-- Entries that differ in nothing but whether their names are marked as UTF-8. -/
def Alike (e e' : Entry) : Prop :=
  ∃ flags, e' = { e with flags := flags } ∧ ∀ bit ≠ 11, flags.testBit bit = e.flags.testBit bit

theorem alike_marked (e : Entry) : Alike e.cutName e.marked.cutName := by
  refine ⟨e.flags ||| nameFlags e.name, rfl, fun bit h => ?_⟩
  have unmarked : (nameFlags e.name).testBit bit = false := by
    rw [nameFlags]
    split_ifs
    · exact Nat.zero_testBit bit
    · exact Nat.testBit_two_pow_of_ne (n := 11) h.symm
  rw [Nat.testBit_or, unmarked, Bool.or_false]
  rfl

theorem Alike.name {e e' : Entry} (h : Alike e e') : e'.name = e.name := by
  obtain ⟨flags, rfl, -⟩ := h
  rfl

/-- Whether a name is marked makes no difference to what is read. -/
theorem Alike.contents {e e' : Entry} (h : Alike e e') (label : String) :
    e'.contents label = e.contents label := by
  obtain ⟨flags, rfl, same⟩ := h
  simp only [Entry.contents, Entry.hasFlag, same 5 (by decide), same 6 (by decide),
    same 0 (by decide)]
  rfl

/-- Nor does it to what is written. -/
theorem Alike.copyEntry {e e' : Entry} (h : Alike e e') (slides : List FilledSlide) :
    copyEntry slides e' = copyEntry slides e := by
  have read := h.contents
  obtain ⟨flags, rfl, -⟩ := h
  rw [Deck.copyEntry, Deck.copyEntry, read]
  rfl

theorem fillSlide_alike {deck deck' : Archive}
    (alike : List.Forall₂ Alike deck.entries deck'.entries)
    (slide : Slide) :
    fillSlide encoding deck' resolve slide = fillSlide encoding deck resolve slide := by
  have read : deck'.read? (slidePath slide.page) = deck.read? (slidePath slide.page) := by
    have found := find?_forall₂ (fun _ _ => Alike.name) alike (slidePath slide.page)
    rw [read?, read?]
    generalize deck.find? (slidePath slide.page) = entry at found ⊢
    generalize deck'.find? (slidePath slide.page) = entry' at found ⊢
    cases found with
    | none => rfl
    | some h => exact congrArg some (h.contents _)
  rw [fillSlide, fillSlide, read]

/-- **Whether names are marked makes no difference to filling.** -/
theorem fillOpened_alike {deck deck' : Archive} (comment : deck'.comment = deck.comment)
    (alike : List.Forall₂ Alike deck.entries deck'.entries) (slides : List Slide) :
    fillOpened encoding deck' slides resolve = fillOpened encoding deck slides resolve := by
  have copies (filled : List FilledSlide) :
      deck'.entries.mapM (copyEntry filled) = deck.entries.mapM (copyEntry filled) :=
    (mapM_congr (alike.imp fun _ _ h => (h.copyEntry filled).symm)).symm
  simp only [fillOpened, fillSlide_alike alike, copies, comment]

/-- Opening leaves the names marked that have been marked. -/
theorem exists_alike {a t : Archive} (h : a.opened = .ok t) :
    ∃ m : Archive, a.marked.opened = .ok m ∧ m.opened = .ok m ∧ m.comment = t.comment ∧
      List.Forall₂ Alike t.entries m.entries := by
  obtain ⟨comment, entries⟩ := opened_eq_ok.1 h
  have found : a.marked.opened = .ok ⟨a.comment, a.entries.map fun e => e.marked.cutName⟩ := by
    rw [opened_marked, h]
    rfl
  refine ⟨_, found, opened_self (opened_of_mem found), comment.symm, ?_⟩
  have alike : List.Forall₂ (fun e e' => Alike e' e.marked.cutName) a.entries t.entries :=
    entries.imp fun e e' h => (Entry.opened_eq_ok.1 h).2 ▸ alike_marked e
  exact List.forall₂_map_right_iff.2 alike.flip

/-- **A written archive is filled like its bytes,** whether a reader is misled by them or not. -/
theorem rewrite_toBytes {a : Archive} (fits : a.Fits) (table : Table) :
    rewrite encoding (.bytes (toBytes a)) table resolve =
      rewrite encoding (.archive a) table resolve := by
  rw [rewrite_eq_bind, rewrite_eq_bind]
  by_cases once : a.endsOnce
  · have found : openTemplate (.archive a) = a.opened := by
      rw [openTemplate, Upload.toArchive, asFound, if_pos once]
      rfl
    have read : openTemplate (.bytes (toBytes a)) = a.marked.opened >>= opened := by
      rw [openTemplate, Upload.toArchive, ofBytes_toBytes fits once]
    cases ha : a.opened with
    | error fault =>
      rw [read, found, opened_marked, ha]
      rfl
    | ok t =>
      obtain ⟨m, first, again, comment, alike⟩ := exists_alike ha
      have whole : openTemplate (.bytes (toBytes a)) = .ok m := by
        rw [read, first]
        exact again
      rw [whole, found, ha]
      exact fillOpened_alike comment alike table.slides
  · have misled : openTemplate (.archive a) = ofBytes (toBytes a) >>= opened := by
      rw [openTemplate, Upload.toArchive, asFound, if_neg once]
    rw [misled]
    rfl

end SlideMerge.Deck
