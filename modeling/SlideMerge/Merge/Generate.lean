import SlideMerge.Deck.Rewrite
import SlideMerge.Merge.Inputs
import SlideMerge.Placeholder.Resolver

/-!
# Generating a deck

A deck is generated from a template, a workbook and a mapping table: the first worksheet of the
workbook resolves the specifications of the table, and the template is filled with their texts.
What is generated is all or nothing: a deck with the pages that were filled, a rejection of the
uploads, or a failure.
-/

namespace SlideMerge.Merge

open Placeholder Workbook Deck Mapping

/-- Why accepted uploads make no deck. -/
inductive GenerateFault
  | load (fault : LoadFault)
  | fill (fault : FillFault)
  deriving DecidableEq, Repr

def GenerateFault.message : GenerateFault → String
  | load fault => s!"Generate failed: {fault.message}"
  | fill fault => s!"Generate failed: {fault.message}"

/-- What comes of a request for a deck. -/
inductive Outcome
  | generated (deck : Filled)
  | rejected (fault : InputFault)
  | failed (fault : GenerateFault)

namespace Outcome

def deck? : Outcome → Option Filled
  | generated deck => some deck
  | _ => none

/-- The message, if there is no deck. -/
def error? : Outcome → Option String
  | generated _ => none
  | rejected fault => some fault.message
  | failed fault => some fault.message

/-- Whether the uploads have been rejected. -/
def isRejected : Outcome → Bool
  | rejected _ => true
  | _ => false

end Outcome

/-- The answer to a request for a deck. -/
structure Generation where
  /-- The id of the mapping table. -/
  table : String
  /-- The name that the deck is to have. -/
  filename : String
  outcome : Outcome

/-- A request for a deck. -/
structure Request where
  /-- The id of the mapping table that is asked for. -/
  table : Option String
  inputs : Inputs
  /-- The name that is asked for. -/
  filename : Option String

/-- The deck for accepted uploads. -/
def mergeDeck (table : Table) (accepted : Accepted) (workbookName : Option String) :
    Except GenerateFault Filled := do
  let sheet ← (loadFirstSheet accepted.workbook workbookName).mapError .load
  let resolved := fun spec => Except.ok (resolve sheet spec)
  (rewrite .utf8 accepted.template table resolved).mapError .fill

/-- What comes of a request with a mapping table. -/
def outcomeOf (measure : Upload → Nat) (settings : Settings) (table : Table) (inputs : Inputs) :
    Outcome :=
  match inputs.checkBy measure settings with
  | .error fault => .rejected fault
  | .ok accepted =>
    match mergeDeck table accepted inputs.workbook.filename with
    | .ok deck => .generated deck
    | .error fault => .failed fault

/-- Answers a request for a deck with uploads of so many bytes as the measure tells. -/
def generateBy (measure : Upload → Nat) (settings : Settings) (request : Request) : Generation :=
  let table := tableFor request.table settings.defaultTable
  let asked := request.filename.getD ""
  { table := table.id
    filename := if asked = "" then settings.outputName else asked
    outcome := outcomeOf measure settings table request.inputs }

/-- Answers a request for a deck. -/
def generate (settings : Settings) (request : Request) : Generation :=
  generateBy Upload.size settings request

end SlideMerge.Merge
