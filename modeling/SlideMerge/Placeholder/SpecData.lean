import SlideMerge.Placeholder.Spec
import SlideMerge.Plain.Check

/-!
# Specifications as plain data

A specification is written as an object whose field `type` is the tag of its kind. The separator of
a join and the form of month and year may be left out. Fields that a kind does not have are ignored.
-/

namespace SlideMerge.Placeholder

open Plain

inductive SpecKind
  | cell
  | const
  | join
  | monthYear
  deriving DecidableEq, Repr

namespace SpecKind

def tag : SpecKind → String
  | cell => "cell"
  | const => "const"
  | join => "join"
  | monthYear => "month_year"

def ofTag? (s : String) : Option SpecKind :=
  [cell, const, join, monthYear].find? fun k => k.tag = s

/-- The tags, as a message lists them. -/
def tagList : String := "'cell', 'const', 'join', 'month_year'"

end SpecKind

def Spec.kind : Spec → SpecKind
  | .cell _ => .cell
  | .const _ => .const
  | .join _ _ => .join
  | .monthYear _ _ => .monthYear

/-- The names of the forms of month and year, as a message lists them. -/
def formList : String := "'Mon YYYY', 'MMMM YYYY' or 'MM/YYYY'"

/-- A form of month and year, given by its name. -/
def checkMonthYearFormat : Data → Checked MonthYearFormat
  | .text s =>
    match MonthYearFormat.ofName? s with
    | some f => .ok f
    | none => .issue (.noSuchForm formList)
  | _ => .issue (.noSuchForm formList)

namespace Spec

/-- A specification of a given kind from its fields. -/
def checkFields (fields : Keyed Data) : SpecKind → Checked Spec
  | .cell => (required fields "ref" checkText).map cell
  | .const => (required fields "value" checkText).map const
  | .join =>
    (Checked.both (required fields "refs" (checkList checkText))
      (optional fields "join_with" checkText defaultSeparator)).map fun (refs, joinWith) =>
        join refs joinWith
  | .monthYear =>
    (Checked.both (required fields "ref" checkText)
      (optional fields "format" checkMonthYearFormat defaultFormat)).map fun (ref, format) =>
        monthYear ref format

/-- A specification from plain data. -/
def check : Data → Checked Spec
  | .object fields =>
    match Keyed.find? fields "type" with
    | none => .issue .noTag
    | some tag =>
      let unknown : Checked Spec :=
        .issue (.unknownTag (String.ofList tag.mention) SpecKind.tagList)
      match tag with
      | .text s =>
        match SpecKind.ofTag? s with
        | some kind => .under (.field s) (checkFields fields kind)
        | none => unknown
      | _ => unknown
  | _ => .issue .notTagged

def toFields : Spec → Keyed Data
  | cell ref => [("type", .text "cell"), ("ref", .text ref)]
  | const value => [("type", .text "const"), ("value", .text value)]
  | join refs joinWith =>
    [("type", .text "join"), ("refs", .list (refs.map .text)), ("join_with", .text joinWith)]
  | monthYear ref format =>
    [("type", .text "month_year"), ("ref", .text ref), ("format", .text format.name)]

def toData (spec : Spec) : Data :=
  .object spec.toFields

end Spec

end SlideMerge.Placeholder
