import SlideMerge.Plain.Data
import SlideMerge.Plain.WrittenInteger

/-!
# Checking plain data

A check turns plain data into a value of a type, or reports every issue that it finds. An issue has
a cause and the path to the data at fault. Checks of the fields of an object are joined by
`Checked.both`, which keeps the issues of both sides in order.

Numbers are taken with some latitude: truth values count as 0 and 1, a double without a fraction as
the integer that it is, and a text as the integer that it writes. A double has to fit in 64 bits for
that. Texts are taken strictly.
-/

namespace SlideMerge.Plain

open Text Numeric

/-- A step from data to a part of it. -/
inductive Step
  | field (name : String)
  | item (index : Nat)
  deriving DecidableEq, Repr

/-- Why data is not of the type that is asked for. -/
inductive IssueCause
  | missing
  | notText
  | notList
  | notDictionary
  | notInteger
  | unreadableInteger
  | fractionalInteger
  | oversizedInteger
  | notFinite
  | notLogical
  | unreadableLogical
  | belowOne
  | noSuchForm (forms : String)
  | unknownTag (tag : String) (known : String)
  | noTag
  | notTagged
  | notModel (name : String)
  | rejected (reason : String)
  deriving DecidableEq, Repr

namespace IssueCause

/-- The short name of a cause. -/
def code : IssueCause → String
  | missing => "missing"
  | notText => "string_type"
  | notList => "list_type"
  | notDictionary => "dict_type"
  | notInteger => "int_type"
  | unreadableInteger => "int_parsing"
  | fractionalInteger => "int_from_float"
  | oversizedInteger => "int_parsing_size"
  | notFinite => "finite_number"
  | notLogical => "bool_type"
  | unreadableLogical => "bool_parsing"
  | belowOne => "greater_than_equal"
  | noSuchForm _ => "enum"
  | unknownTag _ _ => "union_tag_invalid"
  | noTag => "union_tag_not_found"
  | notTagged => "model_attributes_type"
  | notModel _ => "model_type"
  | rejected _ => "value_error"

/-- The wording of a cause. -/
def message : IssueCause → String
  | missing => "Field required"
  | notText => "Input should be a valid string"
  | notList => "Input should be a valid list"
  | notDictionary => "Input should be a valid dictionary"
  | notInteger => "Input should be a valid integer"
  | unreadableInteger =>
    "Input should be a valid integer, unable to parse string as an integer"
  | fractionalInteger =>
    "Input should be a valid integer, got a number with a fractional part"
  | oversizedInteger => "Unable to parse input string as an integer, exceeded maximum size"
  | notFinite => "Input should be a finite number"
  | notLogical => "Input should be a valid boolean"
  | unreadableLogical => "Input should be a valid boolean, unable to interpret input"
  | belowOne => "Input should be greater than or equal to 1"
  | noSuchForm forms => s!"Input should be {forms}"
  | unknownTag tag known =>
    s!"Input tag '{tag}' found using 'type' does not match any of the expected tags: {known}"
  | noTag => "Unable to extract tag using discriminator 'type'"
  | notTagged => "Input should be a valid dictionary or object to extract fields from"
  | notModel name => s!"Input should be a valid dictionary or instance of {name}"
  | rejected reason => s!"Value error, {reason}"

end IssueCause

/-- A fault of plain data: its cause and the path to it. -/
structure Issue where
  path : List Step
  cause : IssueCause
  deriving DecidableEq, Repr

/-- The outcome of a check: a value, or the issues in the order in which they were found. -/
abbrev Checked (α : Type) := Except (List Issue) α

namespace Checked

variable {α β : Type}

/-- A single issue at the data itself. -/
def issue (cause : IssueCause) : Checked α :=
  .error [⟨[], cause⟩]

/-- Moves the issues of a part to the whole. -/
def under (step : Step) (c : Checked α) : Checked α :=
  c.mapError fun issues => issues.map fun i => ⟨step :: i.path, i.cause⟩

/-- Two checks side by side. -/
def both (a : Checked α) (b : Checked β) : Checked (α × β) :=
  match a, b with
  | .ok x, .ok y => .ok (x, y)
  | .ok _, .error es => .error es
  | .error es, .ok _ => .error es
  | .error es, .error fs => .error (es ++ fs)

/-- A list of checks side by side. -/
def all : List (Checked α) → Checked (List α)
  | [] => .ok []
  | c :: rest => (both c (all rest)).map fun (x, xs) => x :: xs

/-- A check of every item of a list. -/
def items (check : Data → Checked α) (ds : List Data) : Checked (List α) :=
  all (ds.mapIdx fun i d => under (.item i) (check d))

@[simp] theorem both_ok_iff {a : Checked α} {b : Checked β} {p : α × β} :
    both a b = .ok p ↔ a = .ok p.1 ∧ b = .ok p.2 := by
  cases a <;> cases b <;> simp [both, Prod.ext_iff]

end Checked

open Checked

/-- A field that has to be there. -/
def required {α : Type} (fields : Keyed Data) (name : String) (check : Data → Checked α) :
    Checked α :=
  match fields.find? name with
  | some d => under (.field name) (check d)
  | none => under (.field name) (issue .missing)

/-- A field with a default. -/
def optional {α : Type} (fields : Keyed Data) (name : String) (check : Data → Checked α)
    (default : α) : Checked α :=
  match fields.find? name with
  | some d => under (.field name) (check d)
  | none => .ok default

def checkText : Data → Checked String
  | .text s => .ok s
  | _ => issue .notText

/-- A list of items of one type. -/
def checkList {α : Type} (check : Data → Checked α) : Data → Checked (List α)
  | .list ds => items check ds
  | _ => issue .notList

/-- The least integer of 64 bits, and the first one that is too large for them. -/
def wordRange : Int × Int := (-0x8000000000000000, 0x8000000000000000)

/-- The integer that a double is, strictly within the range of 64 bits. -/
def integerOf (x : Double) : Except IssueCause Int :=
  match x.toRat?, x.toInt? with
  | none, _ => .error .notFinite
  | _, none => .error .fractionalInteger
  | _, some n =>
    if wordRange.1 < n ∧ n < wordRange.2 then .ok n else .error .oversizedInteger

def checkInteger : Data → Checked Int
  | .integer n => .ok n
  | .logical b => .ok b.toInt
  | .real x =>
    match integerOf x with
    | .ok n => .ok n
    | .error cause => issue cause
  | .text s =>
    match readWritten s with
    | .ok n => .ok n
    | .error .malformed => issue .unreadableInteger
    | .error .tooLong => issue .oversizedInteger
  | _ => issue .notInteger

/-- The words for the two truth values. -/
def logicalWords : List (String × Bool) :=
  [("true", true), ("yes", true), ("on", true), ("t", true), ("y", true), ("1", true),
   ("false", false), ("no", false), ("off", false), ("f", false), ("n", false), ("0", false)]

/-- The truth value that an integer of 64 bits counts as. -/
def logicalOf (n : Int) : Checked Bool :=
  if n = 0 then .ok false else if n = 1 then .ok true else issue .unreadableLogical

/-- A truth value: also 0 and 1, and a few words in any case. -/
def checkLogical : Data → Checked Bool
  | .logical b => .ok b
  | .integer n => if wordRange.1 ≤ n ∧ n < wordRange.2 then logicalOf n else issue .notLogical
  | .real x =>
    match integerOf x with
    | .ok n => logicalOf n
    | .error _ => issue .notLogical
  | .text s =>
    match logicalWords.lookup s.toLower with
    | some b => .ok b
    | none => issue .unreadableLogical
  | _ => issue .notLogical

end SlideMerge.Plain
