/-!
# File paths

A path is a sequence of components after an optional root. Empty components and single points are
left out, so paths that differ only in these are equal; two points stay as they are.
-/

namespace SlideMerge.Merge

structure FilePath where
  /-- The slashes that a path from the root begins with: none, one or two. -/
  root : String
  components : List String
  deriving DecidableEq, Repr

namespace FilePath

/-- The root of a text: exactly two slashes are kept, and more than two mean one. -/
def rootOf (text : List Char) : String :=
  match (text.takeWhile (· == '/')).length with
  | 0 => ""
  | 2 => "//"
  | _ => "/"

def ofText (text : String) : FilePath :=
  let pieces := (text.toList.splitOn '/').map String.ofList
  ⟨rootOf text.toList, pieces.filter fun piece => piece ≠ "" ∧ piece ≠ "."⟩

/-- The text of a path; a point if there is nothing else. -/
def text (p : FilePath) : String :=
  let text := p.root ++ String.intercalate "/" p.components
  if text = "" then "." else text

/-- The last component. -/
def name (p : FilePath) : String :=
  p.components.getLast?.getD ""

/-- The suffix of a name: what begins with its last point, unless the point begins or ends it. -/
def suffixOf (name : List Char) : List Char :=
  let stem := name.reverse.dropWhile (· != '.')
  let tail := (name.reverse.takeWhile (· != '.')).reverse
  if stem.length ≤ 1 ∨ tail.isEmpty then [] else '.' :: tail

/-- The suffix of the last component. -/
def suffix (p : FilePath) : String :=
  String.ofList (suffixOf p.name.toList)

end FilePath

end SlideMerge.Merge
