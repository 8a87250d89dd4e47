import SlideMerge.Archive.Access

/-!
# The layout of archives in bytes

The bytes of an archive hold the entries, each after a header of its own, then a directory with a
record for each entry, and at the end a record that tells where the directory is. Numbers have their
least significant byte first.

An archive can be laid out in many ways, since packing is not determined. The layout here packs
nothing: by the usual method, data is cut into blocks that hold bytes as they are. There are no
records for archives of more than four gigabytes or 65535 entries.
-/

namespace SlideMerge.Archive

open Text

/-! ## Numbers -/

/-- The number in some bytes. -/
def littleEndian (bytes : Bytes) : Nat :=
  bytes.foldr (fun b n => b.toNat + 256 * n) 0

/-- The number in so many bytes at an offset. -/
def field (record : Bytes) (offset width : Nat) : Nat :=
  littleEndian ((record.drop offset).take width)

/-- A number in so many bytes. -/
def fieldBytes : (width : Nat) → Nat → Bytes
  | 0, _ => []
  | width + 1, n => .ofNat (n % 256) :: fieldBytes width (n / 256)

/-- Several numbers, each in so many bytes as stand before it. -/
def fieldsBytes (fields : List (Nat × Nat)) : Bytes :=
  fields.flatMap fun (width, n) => fieldBytes width n

@[simp] theorem length_fieldBytes (width n : Nat) : (fieldBytes width n).length = width := by
  induction width generalizing n with
  | zero => rfl
  | succ width ih => simp [fieldBytes, ih]

/-- What is written is read, if it fits. -/
theorem littleEndian_fieldBytes (width n : Nat) (h : n < Nat.pow 256 width) :
    littleEndian (fieldBytes width n) = n := by
  induction width generalizing n with
  | zero => simp_all [fieldBytes, littleEndian]
  | succ width ih =>
    have rest : n / 256 < Nat.pow 256 width := by
      have bound : n < Nat.pow 256 width * 256 := h
      omega
    have step := ih (n / 256) rest
    simp only [littleEndian] at step
    simp only [fieldBytes, littleEndian, List.foldr_cons, step, UInt8.toNat_ofNat']
    omega

/-! ## Marks and sizes -/

/-- The mark at the beginning of an entry. -/
def entryMark : Bytes := [0x50, 0x4B, 3, 4]

/-- The mark at the beginning of a directory record. -/
def directoryMark : Bytes := [0x50, 0x4B, 1, 2]

/-- The mark at the beginning of the end record. -/
def endMark : Bytes := [0x50, 0x4B, 5, 6]

/-- The mark at the beginning of the end record of a large archive. -/
def largeEndMark : Bytes := [0x50, 0x4B, 6, 6]

/-- The mark at the beginning of what locates the end record of a large archive. -/
def locatorMark : Bytes := [0x50, 0x4B, 6, 7]

/-- The size of an entry's header without its name and extra field. -/
def entryHeaderSize : Nat := 30

/-- The size of a directory record without its name, extra field and comment. -/
def directoryRecordSize : Nat := 46

/-- The size of the end record without its comment. -/
def endRecordSize : Nat := 22

/-- The size of the end record of a large archive. -/
def largeEndSize : Nat := 56

/-- The size of what locates the end record of a large archive. -/
def locatorSize : Nat := 20

/-- The most bytes that the end record's comment may have. -/
def maxCommentSize : Nat := 0x10000

/-! ## Entries -/

/-- The words for the time and for the date of a point in time. -/
def Stamp.toWords (s : Stamp) : Nat × Nat :=
  (s.hour * 2048 + s.minute * 32 + s.second / 2,
    (s.year - 1980) * 512 + s.month * 32 + s.day)

/-- The flags of a written name: whether it needs UTF-8. -/
def nameFlags (name : String) : Nat :=
  if name.toList.all fun c => c.toNat < 0x80 then 0 else 0x800

/-- The version of a reader that can unpack a method, in tenths. -/
def neededVersion (method : Nat) : Nat :=
  if method = 12 then 46 else if method = 14 then 63 else 20

/-- A block that holds bytes as they are. -/
def storedBlock (last : Bool) (data : Bytes) : Bytes :=
  .ofNat last.toNat :: (fieldsBytes [(2, data.length), (2, 0xFFFF - data.length)] ++ data)

/-- The data in blocks that hold bytes as they are. -/
def storedBlocks (data : Bytes) : Bytes :=
  if data.length ≤ 0xFFFF then storedBlock true data
  else storedBlock false (data.take 0xFFFF) ++ storedBlocks (data.drop 0xFFFF)
termination_by data.length
decreasing_by simp only [List.length_drop]; omega

/-- The data as it stands in the bytes. By other methods than the usual one it stands for itself. -/
def packed (e : Entry) : Bytes :=
  if e.method = 8 then storedBlocks e.data else e.data

def nameBytes (e : Entry) : Bytes :=
  encodeUtf8 e.name.toList

/-- The fields that an entry's header and its directory record have in common. -/
def commonFields (e : Entry) : List (Nat × Nat) :=
  let (time, date) := e.stamp.toWords
  [(2, e.flags ||| nameFlags e.name), (2, e.method), (2, time), (2, date),
   (4, e.declared.toNat), (4, (packed e).length), (4, e.data.length), (2, (nameBytes e).length)]

def headerFields (e : Entry) : List (Nat × Nat) :=
  (2, neededVersion e.method) :: (commonFields e ++ [(2, e.extra.length)])

/-- The fields of the directory record of an entry whose header is at an offset. -/
def recordFields (e : Entry) (offset : Nat) : List (Nat × Nat) :=
  (1, neededVersion e.method) :: (1, e.system) :: (1, neededVersion e.method) :: (1, 0) ::
    (commonFields e ++
      [(2, e.extra.length), (2, e.comment.length), (2, 0), (2, 0), (4, e.attributes), (4, offset)])

/-- The header of an entry, its name, its extra field and its data. -/
def entryBytes (e : Entry) : Bytes :=
  entryMark ++ fieldsBytes (headerFields e) ++ (nameBytes e ++ e.extra ++ packed e)

/-- The directory record of an entry whose header is at an offset. -/
def recordBytes (e : Entry) (offset : Nat) : Bytes :=
  directoryMark ++ fieldsBytes (recordFields e offset) ++ (nameBytes e ++ e.extra ++ e.comment)

/-! ## Archives -/

/-- The directory records of entries, the first of which is at an offset. -/
def directoryBytes (offset : Nat) : List Entry → Bytes
  | [] => []
  | e :: rest => recordBytes e offset ++ directoryBytes (offset + (entryBytes e).length) rest

/-- The entries one after another. -/
def bodyBytes (a : Archive) : Bytes :=
  a.entries.flatMap entryBytes

/-- The fields of the end record after its mark. -/
def endFields (a : Archive) : List (Nat × Nat) :=
  let count := a.entries.length
  [(2, 0), (2, 0), (2, count), (2, count), (4, (directoryBytes 0 a.entries).length),
   (4, (bodyBytes a).length), (2, a.comment.length)]

/-- The end record. -/
def endBytes (a : Archive) : Bytes :=
  endMark ++ fieldsBytes (endFields a) ++ a.comment

def toBytes (a : Archive) : Bytes :=
  bodyBytes a ++ directoryBytes 0 a.entries ++ endBytes a

end SlideMerge.Archive
