import SlideMerge.Archive.Access
import SlideMerge.Deck.Substitution
import SlideMerge.Mapping.Table
import SlideMerge.Numeric.Numeral
import SlideMerge.Text.Encoding
import SlideMerge.Text.Markup

/-!
# Filling a deck

A deck is an archive in which each slide has an entry of its own, named by its page. Filling a deck
replaces, on each slide of a mapping table that the deck has, the tokens by the texts that their
specifications resolve to. All other entries are copied, and so are the properties of the filled
ones. Entries of one name are all replaced by what the last of them becomes.

What resolves the specifications is given from outside and may itself fail; `ε` is the type of its
failures. Only the specifications of slides that the deck has are resolved.
-/

namespace SlideMerge.Deck

open Text Numeric Archive Mapping Placeholder

variable {ε : Type}

/-- The name of the entry for a slide; there is one for pages of any size. -/
def slidePath (page : Int) : String :=
  s!"ppt/slides/slide{String.ofList (decimalInt page)}.xml"

/-- Why the text of a slide cannot be read. -/
inductive SlideFault
  | entry (fault : EntryFault)
  | text (encoding : Encoding) (error : Encoding.DecodeError)
  deriving DecidableEq, Repr

def SlideFault.message : SlideFault → String
  | entry fault => fault.message
  | text encoding error => error.message encoding

/-- Why a deck cannot be filled. -/
inductive FillFault (ε : Type := Empty)
  /-- The template is no archive. -/
  | template (fault : OpenFault)
  /-- The text of a slide cannot be read. -/
  | slide (path : String) (fault : SlideFault)
  /-- A specification cannot be resolved. -/
  | resolution (fault : ε)
  /-- The template needs a reader of a later version. -/
  | version (needed : Nat)
  /-- An entry cannot be read or written at all. -/
  | entry (fault : EntryFault)
  /-- The text of a filled slide cannot be written. -/
  | encoding (error : Encoding.EncodeError)
  deriving DecidableEq, Repr

def FillFault.message : FillFault → String
  | template fault => s!"Template is not a valid .pptx file: {fault.message}"
  | slide path fault => s!"Cannot read {path} from template: {fault.message}"
  | version needed => (OpenFault.newerVersion needed).message
  | entry fault => fault.message
  | encoding error => error.message

/-- A filled deck. -/
structure Filled where
  archive : Archive
  /-- The pages that have been filled, in the order of the table. -/
  filled : List Nat
  /-- The pages that the deck does not have, in the order of the table. -/
  skipped : List Nat
  /-- How many occurrences of tokens have been replaced. -/
  replacements : Nat
  deriving DecidableEq

/-- How many specifications have been resolved: those of all filled slides. -/
def Filled.resolutions (f : Filled) (table : Table) : Nat :=
  total ((table.slides.filter fun slide => slide.page ∈ f.filled).map
    fun slide => slide.placeholders.length)

/-- A failure to open a template. A version that is not supported does not count as a fault of the
template. -/
def openingFault : OpenFault → FillFault ε
  | .newerVersion version => .version version
  | fault => .template fault

/-- A failure to read the data of a slide. Only one of the archive counts as a fault of the
slide. -/
def slideDataFault (path : String) (fault : EntryFault) : FillFault ε :=
  if fault.isArchiveFault then .slide path (.entry fault) else .entry fault

/-- The text in the data of a slide. -/
def slideText (encoding : Encoding) (path : String) (data : Bytes) :
    Except (FillFault ε) (List Char) :=
  (encoding.decode data).mapError fun error => .slide path (.text encoding error)

/-- The texts for the tokens of a slide. -/
def textsFor (resolve : Spec → Except ε String) (placeholders : Keyed Spec) :
    Except ε (Keyed String) :=
  placeholders.mapM fun (token, spec) => (token, ·) <$> resolve spec

/-- The tokens of a slide with what is put in their places: their texts with the reserved characters
named. -/
def replacements (texts : Keyed String) : List (List Char × List Char) :=
  texts.map fun (token, text) => (token.toList, escapeMarkup text.toList)

theorem replacements_cons (token text : String) (rest : Keyed String) :
    replacements ((token, text) :: rest) =
      (token.toList, escapeMarkup text.toList) :: replacements rest := rfl

/-- What becomes of a slide: the data of its entry, and how many occurrences have been replaced. -/
structure FilledSlide where
  page : Nat
  data : Bytes
  replacements : Nat
  deriving DecidableEq

/-- Fills a slide, given the data of its entry. -/
def fillData (encoding : Encoding) (resolve : Spec → Except ε String) (slide : Slide)
    (data : Bytes) : Except (FillFault ε) FilledSlide := do
  let text ← slideText encoding (slidePath slide.page) data
  let texts ← (textsFor resolve slide.placeholders).mapError .resolution
  let (text, count) := substitute (replacements texts) text
  let data ← (encoding.encode text).mapError .encoding
  .ok ⟨slide.page, data, count⟩

/-- Fills a slide; none if the deck does not have it. -/
def fillSlide (encoding : Encoding) (deck : Archive) (resolve : Spec → Except ε String)
    (slide : Slide) : Except (FillFault ε) (Option FilledSlide) :=
  match deck.read? (slidePath slide.page) with
  | none => .ok none
  | some (.error fault) => .error (slideDataFault (slidePath slide.page) fault)
  | some (.ok data) => some <$> fillData encoding resolve slide data

/-- The new data of an entry, if it is that of a filled slide. -/
def newData? (slides : List FilledSlide) (name : String) : Option Bytes :=
  (slides.find? fun s => slidePath s.page = name).map (·.data)

def copyEntry (slides : List FilledSlide) (e : Entry) : Except EntryFault Entry := do
  match newData? slides e.name with
  | some data => e.write data
  | none => e.write (← e.contents e.listing)

/-- Fills a deck that has been opened. -/
def fillOpened (encoding : Encoding) (deck : Archive) (slides : List Slide)
    (resolve : Spec → Except ε String) : Except (FillFault ε) Filled := do
  let outcomes ← slides.mapM fun slide =>
    (slide.page, ·) <$> fillSlide encoding deck resolve slide
  let filled := outcomes.filterMap (·.2)
  let entries ← (deck.entries.mapM (copyEntry filled)).mapError .entry
  .ok
    { archive := ⟨deck.comment, entries⟩
      filled := filled.map (·.page)
      skipped := outcomes.filterMap fun (page, outcome) =>
        if outcome.isNone then some page else none
      replacements := total (filled.map (·.replacements)) }

/-- Fills a deck with what a function resolves that may fail. -/
def fillWith (encoding : Encoding) (deck : Archive) (table : Table)
    (resolve : Spec → Except ε String) : Except (FillFault ε) Filled := do
  fillOpened encoding (← deck.opened.mapError openingFault) table.slides resolve

def fill (encoding : Encoding) (deck : Archive) (table : Table) (resolve : Spec → String) :
    Except FillFault Filled :=
  fillWith encoding deck table fun spec => .ok (resolve spec)

end SlideMerge.Deck
