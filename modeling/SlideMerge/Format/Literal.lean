/-!
# Literal parts of a format code

Text between double quotes stands for itself, a backslash protects the next character, an
underscore leaves a space as wide as the next character, and an asterisk fills the cell with it,
which takes no room in a text. Between quotes none of the three has a meaning. A mark at the very
end of the code is an ordinary character.
-/

namespace SlideMerge.Format

/-- Renders a fragment whose beginning lies inside quotes if the flag says so. -/
def literalFrom : (quoted : Bool) → List Char → List Char
  | _, [] => []
  | true, c :: rest => if c = '"' then literalFrom false rest else c :: literalFrom true rest
  | false, '"' :: rest => literalFrom true rest
  | false, '\\' :: c :: rest => c :: literalFrom false rest
  | false, '_' :: _ :: rest => ' ' :: literalFrom false rest
  | false, '*' :: _ :: rest => literalFrom false rest
  | false, c :: rest => c :: literalFrom false rest

/-- The text that a fragment without placeholders stands for. -/
def literalText (fragment : List Char) : List Char :=
  literalFrom false fragment

@[simp] theorem literalText_nil : literalText [] = [] := rfl

end SlideMerge.Format
