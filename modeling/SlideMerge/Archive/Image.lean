import SlideMerge.Archive.Layout

/-!
# Archives found in bytes

Reading looks for the last end record and follows the directory that it points to; what stands
before the first entry and after the last record is skipped. A comment that holds the mark of an end
record misleads the reader, and so does a directory that ends in what looks like the locator of a
large archive's end record.

The directory says where each entry begins. What is wrong there is damage of the entry and shows
when it is read. Data that is packed by one of the two uncommon methods is not unpacked here.

A written archive is found again unless its bytes mislead the reader, and `asFound` says what is
found. That this is what the bytes hold is proved where they hold everything: for properties that
fit into their fields, and data that is unpacked here.
-/

namespace SlideMerge.Archive

open Text

/-! ## Finding the end record -/

/-- Where the directory is, by the record that ends an archive. -/
structure EndRecord where
  location : Nat
  /-- How many bytes stand between the directory and the record. -/
  gap : Nat
  directorySize : Nat
  directoryOffset : Nat
  comment : Bytes
  deriving DecidableEq, Repr

/-- The end record that begins some bytes, which begin at a location of the archive. A comment that
is cut off is taken as far as it goes. -/
def EndRecord.read? (location : Nat) (bytes : Bytes) : Option EndRecord :=
  if bytes.length < endRecordSize then none
  else some ⟨location, 0, field bytes 12 4, field bytes 16 4,
    (bytes.drop endRecordSize).take (field bytes 20 2)⟩

/-- The last place where the mark of an end record stands, with the bytes from there on. -/
def lastEndMark? (location : Nat) : Bytes → Option (Nat × Bytes)
  | [] => none
  | b :: rest =>
    match lastEndMark? (location + 1) rest with
    | some found => some found
    | none => if endMark.isPrefixOf (b :: rest) then some (location, b :: rest) else none

/-- The end record of an archive: at the very end without a comment, or the last one whose comment
may reach the end. -/
def EndRecord.find? (bytes : Bytes) : Option EndRecord :=
  let atEnd := bytes.length - endRecordSize
  let last := bytes.drop atEnd
  if last.length = endRecordSize ∧ endMark.isPrefixOf last ∧ field last 20 2 = 0 then
    read? atEnd last
  else
    let start := bytes.length - maxCommentSize - endRecordSize
    match lastEndMark? start (bytes.drop start) with
    | some (location, found) => read? location found
    | none => none

/-- The end record of a large archive, if a locator stands before the end record. Both are looked
for at fixed distances, or at the first byte if there are too few bytes. -/
def EndRecord.enlarge (bytes : Bytes) (record : EndRecord) : Except OpenFault EndRecord :=
  let gap := largeEndSize + locatorSize
  let locator := (bytes.drop (record.location - locatorSize)).take locatorSize
  if locator.length < locatorSize ∨ ¬ locatorMark.isPrefixOf locator then .ok record
  else if field locator 4 4 ≠ 0 ∨ 1 < field locator 16 4 then .error .severalParts
  else
    let large := (bytes.drop (record.location - gap)).take largeEndSize
    if large.length < largeEndSize ∨ ¬ largeEndMark.isPrefixOf large then .ok record
    else
      .ok { record with
        gap := gap
        directorySize := field large 40 8
        directoryOffset := field large 48 8 }

/-! ## Reading the directory -/

/-- The upper half of the character set of names that are not marked as UTF-8. -/
def nameCharacters : List Char :=
  ("ÇüéâäàåçêëèïîìÄÅÉæÆôöòûùÿÖÜ¢£¥₧ƒáíóúñÑªº¿⌐¬½¼¡«»░▒▓│┤╡╢╖╕╣║╗╝╜╛┐" ++
    "└┴┬├─┼╞╟╚╔╩╦╠═╬╧╨╤╥╙╘╒╓╫╪┘┌█▄▌▐▀αßΓπΣσµτΦΘΩδ∞φε∩≡±≥≤⌠⌡÷≈°∙·√ⁿ²■\u00A0").toList

/-- The character for a byte of a name. -/
def nameCharacter (b : UInt8) : Char :=
  if b < 0x80 then Char.ofNat b.toNat else nameCharacters.getD (b.toNat - 0x80) '?'

/-- The name in bytes, in UTF-8 if flag 11 says so. -/
def nameOfBytes (flags : Nat) (bytes : Bytes) : Except Utf8Error String :=
  if flags.testBit 11 then String.ofList <$> decodeUtf8 bytes
  else .ok (String.ofList (bytes.map nameCharacter))

/-- The point in time in a word for the time and one for the date. -/
def Stamp.ofWords (time date : Nat) : Stamp where
  year := date / 512 % 128 + 1980
  month := date / 32 % 16
  day := date % 32
  hour := time / 2048 % 32
  minute := time / 32 % 64
  second := time % 32 * 2

/-- How many bytes an entry has and where its header is. -/
structure Extent where
  size : Nat
  packedSize : Nat
  offset : Nat
  deriving DecidableEq, Repr

/-- Stands for a number that is too large for its field. -/
def largeNumber : Nat := 0xFFFFFFFF

/-- A number, taken from the beginning of some bytes if it only stands for a larger one; with the
bytes that are left. -/
def Extent.number (what : String) (isLarge : Bool) (n : Nat) (data : Bytes) :
    Except OpenFault (Nat × Bytes) :=
  if !isLarge then .ok (n, data)
  else if data.length < 8 then .error (.missingNumber what)
  else .ok (field data 0 8, data.drop 8)

/-- The extent with the numbers of a record for large entries. -/
def Extent.enlarge (x : Extent) (data : Bytes) : Except OpenFault Extent := do
  let sizeIsLarge := x.size = largeNumber || x.size = 0xFFFFFFFFFFFFFFFF
  let (size, data) ← number "File size" sizeIsLarge x.size data
  let (packedSize, data) ← number "Compress size" (x.packedSize = largeNumber) x.packedSize data
  let (offset, _) ← number "Header offset" (x.offset = largeNumber) x.offset data
  .ok ⟨size, packedSize, offset⟩

/-- The extent with the numbers of all records for large entries in an extra field. -/
def Extent.withExtra (x : Extent) : Bytes → Except OpenFault Extent
  | a :: b :: c :: d :: body => do
    let size := word c d
    if body.length < size then .error (.corruptExtra ⟨word a b, size⟩)
    else
      let x ← if word a b = largeEntryId then x.enlarge (body.take size) else .ok x
      x.withExtra (body.drop size)
  | _ => .ok x
termination_by field => field.length
decreasing_by simp only [List.length_cons, List.length_drop]; omega

/-- An entry as the directory lists it; it has no data yet. -/
structure Listed where
  entry : Entry
  /-- The name, which may be longer than that of the entry. -/
  name : String
  extent : Extent

/-- The latest version of a reader that is followed, in tenths. -/
def latestVersion : Nat := 63

/-- The entry that a directory record lists. -/
def Listed.ofRecord (record : Bytes) : Except OpenFault Listed := do
  let nameSize := field record 28 2
  let extraSize := field record 30 2
  let tail := record.drop directoryRecordSize
  let flags := field record 8 2
  let name ← (nameOfBytes flags (tail.take nameSize)).mapError .undecodableName
  let version := field record 6 1
  if latestVersion < version then .error (.newerVersion version)
  else
    let extra := (tail.drop nameSize).take extraSize
    let extent : Extent := ⟨field record 24 4, field record 20 4, field record 42 4⟩
    let extent ← extent.withExtra extra
    let entry : Entry :=
      { name := name
        stamp := .ofWords (field record 12 2) (field record 14 2)
        method := field record 10 2
        system := field record 5 1
        attributes := field record 38 4
        comment := (tail.drop (nameSize + extraSize)).take (field record 32 2)
        extra := extra
        flags := flags
        declared := .ofNat (field record 16 4)
        data := [] }
    .ok ⟨entry.cutName, name, extent⟩

/-- The entries that a directory lists. -/
def readDirectory (directory : Bytes) : Except OpenFault (List Listed) :=
  if directory.isEmpty then .ok []
  else if directory.length < directoryRecordSize then .error .truncatedDirectory
  else if directoryMark.isPrefixOf directory then do
    let size := directoryRecordSize + field directory 28 2 + field directory 30 2 +
      field directory 32 2
    let listed ← Listed.ofRecord directory
    let others ← readDirectory (directory.drop size)
    .ok (listed :: others)
  else .error .badDirectory
termination_by directory.length
decreasing_by
  simp only [List.length_drop, directoryRecordSize] at *
  omega

/-! ## Reading entries -/

/-- The data of an entry, if the bytes from its data on are given. -/
def readData (method : Nat) (extent : Extent) (bytes : Bytes) : Except Damage Bytes := do
  let available := bytes.take extent.packedSize
  if method ∉ knownMethods then .ok available
  else if method ≠ 0 ∧ method ≠ 8 then .error .otherPacking
  else if available = [] ∧ 0 < extent.packedSize then .error .truncatedData
  else
    let unpacked ← if method = 8 then (inflate available).mapError .packing
        else .ok ⟨available, false⟩
    let complete := unpacked.ended || available.length = extent.packedSize ||
      extent.size ≤ unpacked.data.length
    if complete then .ok (unpacked.data.take extent.size) else .error .truncatedData

/-- The data of a listed entry whose header is at a place and which has to end before another
one. -/
def Listed.data (l : Listed) (bytes : Bytes) (place limit : Int) : Except Damage Bytes :=
  let header := bytes.drop place.toNat
  let nameSize := field header 26 2
  let found := (header.drop entryHeaderSize).take nameSize
  let rest := (header.drop (entryHeaderSize + nameSize)).drop (field header 28 2)
  if place < 0 ∨ Int.pow 2 63 ≤ place then .error (.outside place)
  else if header.length < entryHeaderSize then .error .truncatedHeader
  else if ¬ entryMark.isPrefixOf header then .error .badHeader
  else
    match nameOfBytes (field header 6 2) found with
    | .error error => .error (.undecodableName error)
    | .ok name =>
      if name ≠ l.name then .error (.otherName l.name found)
      else if limit < bytes.length - rest.length + l.extent.packedSize then .error (.overlap l.name)
      else readData l.entry.method l.extent rest

/-- The entry with its data, or with the damage that it has instead. -/
def Listed.complete (l : Listed) (bytes : Bytes) (place limit : Int) : Entry :=
  match l.data bytes place limit with
  | .ok data => { l.entry with data := data }
  | .error damage => { l.entry with damage := some damage }

/-- Where an entry has to end, of several whose headers are at some places: at the next place, or at
the directory if there is none. Of entries at one place, all but the first end where they begin. -/
def limitOf (directory : Int) (places : List Int) (index : Nat) : Int :=
  let place := places.getD index 0
  if place ∈ places.take index then place
  else ((places.filter (place < ·)).min?).getD directory

/-- The archive that an end record ends. -/
def EndRecord.archive (bytes : Bytes) (record : EndRecord) : Except OpenFault Archive :=
  if record.location < record.directorySize + record.gap then .error .badOffset
  else do
    let start := record.location - record.gap - record.directorySize
    let base : Int := start - record.directoryOffset
    let listed ← readDirectory ((bytes.drop start).take record.directorySize)
    let places := listed.map fun l => base + l.extent.offset
    let entries := listed.zipIdx.map fun (l, index) =>
      l.complete bytes (places.getD index 0) (limitOf start places index)
    .ok ⟨record.comment, entries⟩

/-- The archive that bytes hold. -/
def ofBytes (bytes : Bytes) : Except OpenFault Archive := do
  match EndRecord.find? bytes with
  | none => .error .notAnArchive
  | some record => (← record.enlarge bytes).archive bytes

/-! ## Finding a written archive -/

/-- Whether the end record is the last place in the bytes of an archive where its mark stands, as
far as the comment is searched for one, with no end record of a large archive before it. The mark of
another one may begin in the length of the comment. -/
def endsOnce (a : Archive) : Bool :=
  let directory := directoryBytes 0 a.entries
  (a.comment.isEmpty || (lastEndMark? 0 (endBytes a).tail).isNone) &&
    !locatorMark.isPrefixOf (directory.drop (directory.length - locatorSize))

/-- What a reader finds where `a` has been written: `a` itself, or what the bytes mislead it to. -/
def asFound (a : Archive) : Except OpenFault Archive :=
  if a.endsOnce then .ok a else ofBytes (toBytes a)

end SlideMerge.Archive
