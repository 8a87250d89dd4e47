import SlideMerge.Keyed
import SlideMerge.Numeric.Decimal.Shortest
import SlideMerge.Text.Quoted

/-!
# Plain data

Data without a type of its own, as it comes from outside: null, truth values, numbers, texts, lists
and objects with their fields in order.
-/

namespace SlideMerge.Plain

open Text Numeric

/-- Plain data. -/
inductive Data
  | null
  | logical (b : Bool)
  | integer (n : Int)
  | real (x : Double)
  | text (s : String)
  | list (items : List Data)
  | object (fields : List (String × Data))
  deriving Inhabited

namespace Data

mutual

/-- The data as it is shown in messages: texts in quotes, lists and objects in brackets. -/
def shown : Data → List Char
  | null => ['N', 'o', 'n', 'e']
  | logical true => ['T', 'r', 'u', 'e']
  | logical false => ['F', 'a', 'l', 's', 'e']
  | integer n => decimalInt n
  | real x => x.text
  | text s => quoted s.toList
  | list items => '[' :: (shownItems items ++ [']'])
  | object fields => '\x7b' :: (shownFields fields ++ ['\x7d'])

/-- Items with commas between them. -/
def shownItems : List Data → List Char
  | [] => []
  | [d] => shown d
  | d :: rest => shown d ++ ',' :: ' ' :: shownItems rest

/-- Fields with commas between them. -/
def shownFields : List (String × Data) → List Char
  | [] => []
  | [(name, d)] => quoted name.toList ++ ':' :: ' ' :: shown d
  | (name, d) :: rest =>
    quoted name.toList ++ ':' :: ' ' :: shown d ++ ',' :: ' ' :: shownFields rest

end

/-- The data where a message speaks of its value: a text stands without quotes. -/
def mention : Data → List Char
  | text s => s.toList
  | d => d.shown

end Data

end SlideMerge.Plain
