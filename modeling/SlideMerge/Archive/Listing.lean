import SlideMerge.Archive.Entry
import SlideMerge.Numeric.Numeral

/-!
# Listing entries

An entry is listed with its name in quotes and those of its properties that say something: the
packing method unless it is none, the mode and the other attributes unless they are zero, and its
size.
-/

namespace SlideMerge.Archive

open Text Numeric

def methodNames : List (Nat × String) :=
  [(0, "store"), (1, "shrink"), (2, "reduce"), (3, "reduce"), (4, "reduce"), (5, "reduce"),
   (6, "implode"), (7, "tokenize"), (8, "deflate"), (9, "deflate64"), (10, "implode"),
   (12, "bzip2"), (14, "lzma"), (18, "terse"), (19, "lz77"), (97, "wavpack"), (98, "ppmd")]

/-- The name of a packing method, or its number. -/
def methodName (method : Nat) : String :=
  (methodNames.lookup method).getD (String.ofList (decimal method))

/-- The letter for the kind of file that a mode names in its uppermost four bits. -/
def kindLetter (mode : Nat) : Char :=
  match mode / 0x1000 % 16 with
  | 0x1 => 'p'
  | 0x2 => 'c'
  | 0x4 => 'd'
  | 0x6 => 'b'
  | 0x8 => '-'
  | 0xA => 'l'
  | 0xC => 's'
  | _ => '?'

/-- The three letters for the rights of one class of users. A special bit shows in the place of
the right to execute, in lower case if that right is given too. -/
def rightLetters (rights : Nat) (special : Bool) (letter : Char) : List Char :=
  let execute := rights % 2 = 1
  [if rights / 4 % 2 = 1 then 'r' else '-',
   if rights / 2 % 2 = 1 then 'w' else '-',
   if special then (if execute then letter else letter.toUpper) else if execute then 'x' else '-']

/-- The mode of a file in ten letters. -/
def modeText (mode : Nat) : List Char :=
  kindLetter mode ::
    (rightLetters (mode / 64 % 8) (mode.testBit 11) 's' ++
      rightLetters (mode / 8 % 8) (mode.testBit 10) 's' ++
      rightLetters (mode % 8) (mode.testBit 9) 't')

/-- The entry with its properties. -/
def Entry.listing (e : Entry) : String :=
  let method := if e.method = 0 then "" else s!" compress_type={methodName e.method}"
  let mode := e.attributes / 0x10000
  let mode := if mode = 0 then "" else s!" filemode='{String.ofList (modeText mode)}'"
  let low := e.attributes % 0x10000
  let low := if low = 0 then "" else s!" external_attr=0x{String.ofList (paddedHex 1 low)}"
  let length := String.ofList (decimal e.data.length)
  let listed := !e.isDirectory || !e.data.isEmpty
  let size := if listed then s!" file_size={length}" else ""
  let packed := if listed && e.method != 0 then s!" compress_size={length}" else ""
  s!"<ZipInfo filename={quotedString e.name}{method}{mode}{low}{size}{packed}>"

end SlideMerge.Archive
