import SlideMerge.Deck.Fill
import SlideMerge.Workbook.Upload

/-!
# Rewriting a template

A template is an uploaded file. Rewriting opens the archive that it is and fills the deck in it. The
filled deck is a file again, and can be a template in its turn.
-/

namespace SlideMerge.Deck

open Text Archive Mapping Placeholder Workbook

variable {ε : Type}

def openTemplate (template : Upload) : Except OpenFault Archive := do
  (← template.toArchive).opened

/-- Fills the deck in a template. -/
def rewrite (encoding : Encoding) (template : Upload) (table : Table)
    (resolve : Spec → Except ε String) : Except (FillFault ε) Filled := do
  fillWith encoding (← template.toArchive.mapError openingFault) table resolve

def Filled.file (f : Filled) : Upload :=
  .archive f.archive

end SlideMerge.Deck
