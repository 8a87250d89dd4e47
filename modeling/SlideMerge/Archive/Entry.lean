import SlideMerge.Archive.Checksum
import SlideMerge.Archive.Extra
import SlideMerge.Archive.Inflate
import SlideMerge.Text.Encoding

/-!
# Archives

An archive is a comment and a sequence of entries; several entries may have the same name. Each
entry keeps its data with a checksum, the method by which the data is packed, and attributes that
travel with it. The data of an entry is the unpacked data. An entry that has been found in bytes may
be damaged, so that there is no data; this shows when the entry is read, and not before.
-/

namespace SlideMerge.Archive

open Text

/-- A point in time as entries keep it. The fields need not make a calendar date. -/
structure Stamp where
  year : Nat
  month : Nat
  day : Nat
  hour : Nat
  minute : Nat
  second : Nat
  deriving DecidableEq, Repr

namespace Stamp

/-- The point in time, of which only even seconds can be kept. -/
def rounded (s : Stamp) : Stamp :=
  { s with second := s.second / 2 * 2 }

/-- The beginning of the time that entries can keep. -/
def first : Stamp := ⟨1980, 1, 1, 0, 0, 0⟩

end Stamp

/-- What is wrong with an entry as it stands in bytes. -/
inductive Damage
  /-- The directory places the entry before the first byte, or further on than can be reached. -/
  | outside (offset : Int)
  /-- The bytes end within the header of the entry. -/
  | truncatedHeader
  /-- There is no header at the place of the entry. -/
  | badHeader
  /-- The name in the header is no text. -/
  | undecodableName (error : Utf8Error)
  /-- The name in the header is not the one in the directory. -/
  | otherName (listed : String) (found : Bytes)
  /-- The entry reaches into the next one. -/
  | overlap (listed : String)
  /-- The bytes end within the data. -/
  | truncatedData
  | packing (fault : UnpackFault)
  /-- The data is packed by a known method that is not unpacked here. -/
  | otherPacking
  deriving DecidableEq, Repr

namespace Damage

/-- When damage shows: with the header of an entry, with the name in it, or with the data. -/
inductive Stage
  | header
  | name
  | data
  deriving DecidableEq, Repr

/-- When the damage shows. -/
def stage : Damage → Stage
  | outside _ | truncatedHeader | badHeader => .header
  | undecodableName _ | otherName _ _ | overlap _ => .name
  | truncatedData | packing _ | otherPacking => .data

end Damage

/-- An entry of an archive. -/
structure Entry where
  name : String
  stamp : Stamp
  /-- The number of the packing method. -/
  method : Nat
  /-- The number of the system that wrote the entry. -/
  system : Nat
  /-- The attributes that this system keeps for the entry. -/
  attributes : Nat
  comment : Bytes
  extra : Bytes
  /-- Flags on how the data is to be read. -/
  flags : Nat
  /-- The checksum that the entry declares for its data. -/
  declared : UInt32
  data : Bytes
  /-- Why there is no data, if there is none. -/
  damage : Option Damage := none
  deriving DecidableEq

/-- The methods that can be unpacked and packed: none, and three ways of compression. -/
def knownMethods : List Nat := [0, 8, 12, 14]

/-- The attributes of a new file that has none: read and written by its owner. -/
def defaultAttributes : Nat := 0o600 <<< 16

namespace Entry

/-- A name ends at its first NUL. -/
def cutName (e : Entry) : Entry :=
  { e with name := String.ofList (e.name.toList.takeWhile (· != '\x00')) }

def isDirectory (e : Entry) : Bool :=
  e.name.toList.getLast? == some '/'

/-- A flag of the entry, by the number of its bit. -/
def hasFlag (e : Entry) (bit : Nat) : Bool :=
  e.flags.testBit bit

/-- The damage that shows at a stage. -/
def damageAt (e : Entry) (stage : Damage.Stage) : Option Damage :=
  e.damage.filter (·.stage = stage)

/-- The entry with other data as a new archive keeps it: the name, the time, the method, the system,
the attributes, the comment and the extra field are those of the entry, except that missing
attributes become the default ones and that records for large entries are left out. -/
def withData (e : Entry) (data : Bytes) : Entry where
  name := e.name
  stamp := e.stamp
  method := e.method
  system := e.system
  attributes := if e.attributes = 0 then defaultAttributes else e.attributes
  comment := e.comment
  extra := stripLargeEntry e.extra
  flags := 0
  declared := checksum data
  data := data

end Entry

end SlideMerge.Archive

namespace SlideMerge

/-- An archive: a comment and entries in order. -/
structure Archive where
  comment : Text.Bytes
  entries : List Archive.Entry
  deriving DecidableEq

namespace Archive

/-- The last entry of a name, which is the one that the name stands for. -/
def find? (a : Archive) (name : String) : Option Entry :=
  a.entries.reverse.find? fun e => e.name = name

def contains (a : Archive) (name : String) : Bool :=
  a.entries.any fun e => e.name = name

theorem contains_eq_isSome_find? (a : Archive) (name : String) :
    a.contains name = (a.find? name).isSome := by
  rw [Bool.eq_iff_iff]
  simp [contains, find?, List.find?_isSome]

end Archive

end SlideMerge
