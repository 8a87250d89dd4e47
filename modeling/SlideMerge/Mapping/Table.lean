import SlideMerge.Numeric.Total
import SlideMerge.Placeholder.Spec

/-!
# Mapping tables

A mapping table says, slide by slide, which tokens of a template are to be replaced and where their
texts come from. Slides are named by their page, which is at least 1; no two slides of a table have
the same page, and no token is empty.
-/

namespace SlideMerge.Mapping

open Numeric Placeholder

/-- The placeholders of one slide. -/
structure Slide where
  page : Nat
  placeholders : Keyed Spec
  page_pos : 0 < page := by decide
  tokens_ne : ∀ token ∈ placeholders.keys, token ≠ "" := by decide
  tokens_nodup : placeholders.keys.Nodup := by decide

/-- The slides of one family of templates. -/
structure Table where
  id : String
  label : String
  description : String
  slides : List Slide
  pages_nodup : (slides.map Slide.page).Nodup := by decide

namespace Table

/-- The pages, in the order of the slides. -/
def pages (t : Table) : List Nat :=
  t.slides.map Slide.page

/-- The slide of a page. -/
def get? (t : Table) (page : Int) : Option Slide :=
  t.slides.find? fun slide => (slide.page : Int) = page

/-- The number of tokens on all slides. -/
def tokenCount (t : Table) : Nat :=
  total (t.slides.map fun slide => slide.placeholders.length)

end Table

end SlideMerge.Mapping
