import SlideMerge.Archive.Listing

/-!
# Reading and writing entries

An archive opens if all extra fields are sound. An entry of an open archive can be read if it is not
damaged, its flags ask for nothing special, its method is known and its data has the declared
checksum; the first of these that fails is reported. An entry can be written if its method is known
and its name is not too long.
-/

namespace SlideMerge.Archive

open Text Numeric

/-- Why bytes or entries are no archive that can be opened. -/
inductive OpenFault
  /-- There is no record that ends an archive. -/
  | notAnArchive
  /-- The archive is one of several parts. -/
  | severalParts
  /-- The directory would begin before the archive does. -/
  | badOffset
  /-- The directory ends within an entry. -/
  | truncatedDirectory
  /-- An entry of the directory does not begin as it should. -/
  | badDirectory
  /-- A name in the directory is no text. -/
  | undecodableName (error : Utf8Error)
  /-- An entry needs a reader of a later version; versions are counted in tenths. -/
  | newerVersion (version : Nat)
  /-- An extra field is not sound. -/
  | corruptExtra (record : ShortRecord)
  /-- A record for large entries lacks a number. -/
  | missingNumber (what : String)
  deriving DecidableEq, Repr

def OpenFault.message : OpenFault → String
  | notAnArchive => "File is not a zip file"
  | severalParts => "zipfiles that span multiple disks are not supported"
  | badOffset => "Bad offset for central directory"
  | truncatedDirectory => "Truncated central directory"
  | badDirectory => "Bad magic number for central directory"
  | undecodableName error => (Encoding.DecodeError.malformed error).message .utf8
  | newerVersion version => s!"zip file version {version / 10}.{version % 10}"
  | corruptExtra record =>
    let id := String.ofList (paddedHex 4 record.id)
    s!"Corrupt extra field {id} (size={String.ofList (decimal record.size)})"
  | missingNumber what => s!"Corrupt zip64 extra field. {what} not found."

def Damage.message : Damage → String
  | outside offset =>
    if -Int.pow 2 63 ≤ offset ∧ offset < 0 then
      s!"negative seek value {String.ofList (decimalInt offset)}"
    else "Python int too large to convert to C ssize_t"
  | truncatedHeader => "Truncated file header"
  | badHeader => "Bad magic number for file header"
  | undecodableName error => (Encoding.DecodeError.malformed error).message .utf8
  | otherName listed found =>
    let shown := String.ofList (shownBytes found)
    s!"File name in directory {quotedString listed} and header {shown} differ."
  | overlap listed => s!"Overlapped entries: {quotedString listed} (possible zip bomb)"
  | truncatedData | otherPacking => ""
  | packing fault => s!"Error -3 while decompressing data: {fault.message}"

/-- Why an entry cannot be read or written. -/
inductive EntryFault
  | patchedData
  | strongEncryption
  /-- The entry is encrypted; `label` is how it was named. -/
  | encrypted (label : String)
  | unknownMethod
  | badChecksum (name : String)
  | damaged (damage : Damage)
  /-- The name is too long for an archive. -/
  | nameTooLong
  deriving DecidableEq, Repr

def EntryFault.message : EntryFault → String
  | patchedData => "compressed patched data (flag bit 5)"
  | strongEncryption => "strong encryption (flag bit 6)"
  | encrypted label => s!"File {label} is encrypted, password required for extraction"
  | unknownMethod => "That compression method is not supported"
  | badChecksum name => s!"Bad CRC-32 for file {quotedString name}"
  | damaged damage => damage.message
  | nameTooLong => "ushort format requires 0 <= number <= 65535"

/-- Whether a failure to read an entry lies in how the archive is laid out or in its checksum. -/
def EntryFault.isArchiveFault : EntryFault → Bool
  | badChecksum _ => true
  | damaged damage =>
    match damage with
    | .truncatedHeader | .badHeader | .undecodableName _ | .otherName _ _ | .overlap _ => true
    | .outside _ | .truncatedData | .packing _ | .otherPacking => false
  | patchedData | strongEncryption | encrypted _ | unknownMethod | nameTooLong => false

/-- The most bytes of a name. -/
def maxNameSize : Nat := 0xFFFF

/-- Fails if a condition holds. -/
def refuse (condition : Prop) [Decidable condition] (fault : EntryFault) : Except EntryFault Unit :=
  if condition then .error fault else .ok ()

namespace Entry

/-- Reports the damage that shows at a stage. -/
def checkDamage (e : Entry) (stage : Damage.Stage) : Except EntryFault Unit :=
  match e.damageAt stage with
  | some damage => .error (.damaged damage)
  | none => .ok ()

/-- The data of an entry. The label is how a message names an encrypted entry. -/
def contents (e : Entry) (label : String) : Except EntryFault Bytes := do
  e.checkDamage .header
  refuse (e.hasFlag 5) .patchedData
  refuse (e.hasFlag 6) .strongEncryption
  e.checkDamage .name
  refuse (e.hasFlag 0) (.encrypted label)
  refuse (e.method ∉ knownMethods) .unknownMethod
  e.checkDamage .data
  refuse (checksum e.data ≠ e.declared) (.badChecksum e.name)
  .ok e.data

/-- Writes other data under the properties of an entry. -/
def write (e : Entry) (data : Bytes) : Except EntryFault Entry := do
  refuse (e.method ∉ knownMethods) .unknownMethod
  refuse (maxNameSize < (encodeUtf8 e.name.toList).length) .nameTooLong
  .ok (e.withData data)

/-- Opens an entry. -/
def opened (e : Entry) : Except OpenFault Entry :=
  match shortRecord? e.extra with
  | some record => .error (.corruptExtra record)
  | none => .ok e.cutName

end Entry

/-- Opens an archive. -/
def opened (a : Archive) : Except OpenFault Archive := do
  .ok ⟨a.comment, ← a.entries.mapM Entry.opened⟩

/-- The data under a name. -/
def read? (a : Archive) (name : String) : Option (Except EntryFault Bytes) :=
  (a.find? name).map fun e => e.contents (quotedString name)

end SlideMerge.Archive
