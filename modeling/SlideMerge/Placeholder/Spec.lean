import SlideMerge.Placeholder.MonthYear

/-!
# Placeholder specifications

A specification says where the text for a token of the template comes from: the display text of one
cell, a fixed text, several cells joined with a separator, or the month and the year of a cell.
-/

namespace SlideMerge.Placeholder

/-- Where the text for a token comes from. -/
inductive Spec
  | cell (ref : String)
  | const (value : String)
  | join (refs : List String) (joinWith : String)
  | monthYear (ref : String) (format : MonthYearFormat)
  deriving DecidableEq, Repr

namespace Spec

/-- The separator of joined texts that goes without saying. -/
def defaultSeparator : String := " "

/-- The form of month and year that goes without saying. -/
def defaultFormat : MonthYearFormat := .short

/-- The references that a specification looks up, in order. -/
def refs : Spec → List String
  | cell ref => [ref]
  | const _ => []
  | join refs _ => refs
  | monthYear ref _ => [ref]

end Spec

end SlideMerge.Placeholder
