import SlideMerge.Placeholder.Spec

/-!
# Resolving specifications

Resolving turns a specification into text with the cells of a snapshot. It never fails: where a
value is missing or cannot be written, or a reference is malformed, the result is `N/A`. In a join,
missing values and cells that read `N/A` themselves are left out.
-/

namespace SlideMerge.Placeholder

open Text Numeric Sheet

/-- Why a value cannot be looked up. -/
inductive LookupFault
  | reference (fault : ReferenceFault)
  | value (fault : WriteFault)
  | monthYear (fault : MonthYearFault)
  deriving DecidableEq, Repr

def LookupFault.message : LookupFault → String
  | reference fault => fault.message
  | value fault => fault.message
  | monthYear fault => fault.message

/-- The display text of a cell without the blanks around it; `N/A` if there is none. -/
def textOfCell : Option Cell → Except WriteFault (List Char)
  | none => .ok notAvailable.toList
  | some cell => do
    if ← cell.isBlank then .ok notAvailable.toList
    else
      let text := trim (← cell.displayText)
      .ok (if text.isEmpty then notAvailable.toList else text)

/-- The text of the cell at a written reference. -/
def cellText (sheet : Snapshot) (ref : String) : Except LookupFault (List Char) := do
  let cell ← (sheet.get ref).mapError .reference
  (textOfCell cell).mapError .value

/-- The texts that a join keeps. -/
def survivors (texts : List (List Char)) : List (List Char) :=
  (texts.map trim).filter fun text => !text.isEmpty && text != notAvailable.toList

/-- The texts with the separator between them; `N/A` if there are none. -/
def joinTexts (separator : List Char) : List (List Char) → List Char
  | [] => notAvailable.toList
  | texts => List.intercalate separator texts

/-- The texts of the cells at several references, joined. -/
def joinText (sheet : Snapshot) (refs : List String) (separator : String) :
    Except LookupFault (List Char) := do
  let texts ← refs.mapM (cellText sheet)
  .ok (joinTexts separator.toList (survivors texts))

/-- The month and the year of the cell at a reference, in the form of the given name. -/
def monthYearAt (sheet : Snapshot) (ref format : String) : Except LookupFault String := do
  let cell ← (sheet.get ref).mapError .reference
  (monthYearTextNamed sheet.system cell format).mapError .monthYear

/-- The text for a specification, or why a value cannot be looked up. -/
def lookup (sheet : Snapshot) : Spec → Except LookupFault String
  | .const value => .ok value
  | .cell ref => String.ofList <$> cellText sheet ref
  | .join refs separator => String.ofList <$> joinText sheet refs separator
  | .monthYear ref format => do
    let cell ← (sheet.get ref).mapError .reference
    (monthYearText sheet.system cell format).mapError .monthYear

/-- The text for a specification. -/
def resolve (sheet : Snapshot) (spec : Spec) : String :=
  match lookup sheet spec with
  | .ok text => text
  | .error _ => notAvailable

/-- The texts for the tokens of a set of placeholders, in their order. -/
def resolveAll (sheet : Snapshot) (placeholders : Keyed Spec) : Keyed String :=
  placeholders.map fun (token, spec) => (token, resolve sheet spec)

@[simp] theorem resolve_const (sheet : Snapshot) (value : String) :
    resolve sheet (.const value) = value := rfl

@[simp] theorem keys_resolveAll (sheet : Snapshot) (placeholders : Keyed Spec) :
    (resolveAll sheet placeholders).keys = placeholders.keys := by
  simp [resolveAll, Keyed.keys]

end SlideMerge.Placeholder
