/-!
# Blank characters

The blanks are the white space of Unicode together with the four information separators
`U+001C` to `U+001F`. The zero-width space `U+200B` and the byte order mark `U+FEFF` are no
blanks. Texts are lists of code points here and in every lexer of the library; `String` appears
only at the surface.
-/

namespace SlideMerge.Text

/-- The code point ranges of the blanks, both ends included. -/
def blankRanges : List (Nat × Nat) :=
  [(0x0009, 0x000D), (0x001C, 0x0020), (0x0085, 0x0085), (0x00A0, 0x00A0), (0x1680, 0x1680),
   (0x2000, 0x200A), (0x2028, 0x2029), (0x202F, 0x202F), (0x205F, 0x205F), (0x3000, 0x3000)]

/-- Whether a code point lies in one of the ranges. -/
def inRanges (ranges : List (Nat × Nat)) (c : Char) : Bool :=
  ranges.any fun (low, high) => low ≤ c.toNat && c.toNat ≤ high

def isBlank (c : Char) : Bool :=
  inRanges blankRanges c

/-- The text without its leading blanks. -/
def trimStart (cs : List Char) : List Char :=
  cs.dropWhile isBlank

/-- The text without its trailing blanks. -/
def trimEnd (cs : List Char) : List Char :=
  (trimStart cs.reverse).reverse

/-- The text without the blanks at its two ends. -/
def trim (cs : List Char) : List Char :=
  trimEnd (trimStart cs)

/-- A character of the white space of Unicode: a blank that is no information separator. -/
def isWhiteSpace (c : Char) : Bool :=
  isBlank c && !inRanges [(0x001C, 0x001F)] c

/-- The text without the white space at its two ends. -/
def trimWhiteSpace (cs : List Char) : List Char :=
  ((cs.dropWhile isWhiteSpace).reverse.dropWhile isWhiteSpace).reverse

/-- A text of blanks only, the empty one among them. -/
def isBlankText (cs : List Char) : Bool :=
  cs.all isBlank

end SlideMerge.Text
