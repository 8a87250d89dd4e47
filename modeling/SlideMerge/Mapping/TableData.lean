import SlideMerge.Mapping.Table
import SlideMerge.Placeholder.SpecData

/-!
# Mapping tables as plain data

A table is an object with the fields `id`, `label`, `description` and `slides`, and a slide one with
`page` and `placeholders`, an object from tokens to specifications. Pages are compared as the
integers that they are taken for, so a page given as `2` and one given as `"2"` clash.
-/

namespace SlideMerge.Mapping

open Numeric Plain Placeholder

/-- A page number. -/
def checkPage (d : Data) : Checked Nat :=
  match checkInteger d with
  | .ok n => if 1 ≤ n then .ok n.toNat else .issue .belowOne
  | .error issues => .error issues

/-- The specifications of the fields of an object, one by one. -/
def checkSpecs (fields : List (String × Data)) : Checked (List (String × Spec)) :=
  Checked.all (fields.map fun (token, d) =>
    (Checked.under (.field token) (Spec.check d)).map fun spec => (token, spec))

/-- The placeholders of a slide, none of them with an empty token. -/
def checkPlaceholders : Data → Checked (Keyed Spec)
  | .object fields =>
    match checkSpecs fields with
    | .ok specs =>
      let placeholders := Keyed.ofPairs specs
      if "" ∈ placeholders.keys then
        .issue (.rejected "Placeholder tokens must be non-empty strings")
      else .ok placeholders
    | .error issues => .error issues
  | _ => .issue .notDictionary

/-- The slide with these parts. Checked parts are always accepted. -/
def Slide.ofParts? (page : Nat) (placeholders : Keyed Spec) : Option Slide :=
  if h : 0 < page ∧ (∀ token ∈ placeholders.keys, token ≠ "") ∧ placeholders.keys.Nodup then
    some ⟨page, placeholders, h.1, h.2.1, h.2.2⟩
  else none

/-- A slide from plain data. -/
def checkSlide : Data → Checked Slide
  | .object fields =>
    match Checked.both (required fields "page" checkPage)
        (optional fields "placeholders" checkPlaceholders []) with
    | .ok (page, placeholders) =>
      match Slide.ofParts? page placeholders with
      | some slide => .ok slide
      | none => .issue (.notModel "SlideMapping")
    | .error issues => .error issues
  | _ => .issue (.notModel "SlideMapping")

/-- The elements that occur more than once, each once, in ascending order. -/
def repeated (pages : List Nat) : List Nat :=
  (pages.filter fun page => 1 < pages.count page).eraseDups.mergeSort

/-- A list of numbers in brackets; numbers of any size are written. -/
def bracketed (ns : List Nat) : String :=
  "[" ++ String.intercalate ", " (ns.map fun n => String.ofList (decimal n)) ++ "]"

/-- Slides of distinct pages. -/
def checkSlides (d : Data) : Checked { slides : List Slide // (slides.map Slide.page).Nodup } :=
  match checkList checkSlide d with
  | .ok slides =>
    if h : (slides.map Slide.page).Nodup then .ok ⟨slides, h⟩
    else
      let pages := bracketed (repeated (slides.map Slide.page))
      .issue (.rejected s!"Duplicate slide pages in mapping table: {pages}")
  | .error issues => .error issues

namespace Table

/-- A table from the fields of an object. -/
def checkFields (fields : Keyed Data) : Checked Table :=
  (Checked.both (required fields "id" checkText)
    (Checked.both (required fields "label" checkText)
      (Checked.both (optional fields "description" checkText "")
        (optional fields "slides" checkSlides ⟨[], List.nodup_nil⟩)))).map
    fun (id, label, description, slides) => ⟨id, label, description, slides.1, slides.2⟩

/-- A table from plain data. -/
def check : Data → Checked Table
  | .object fields => checkFields fields
  | _ => .issue (.notModel "MappingTable")

/-- The fields of a slide, all of them. -/
def slideData (slide : Slide) : Data :=
  .object
    [("page", .integer slide.page),
     ("placeholders", .object (slide.placeholders.map fun (token, spec) => (token, spec.toData)))]

def toData (t : Table) : Data :=
  .object
    [("id", .text t.id), ("label", .text t.label), ("description", .text t.description),
     ("slides", .list (t.slides.map slideData))]

end Table

end SlideMerge.Mapping
