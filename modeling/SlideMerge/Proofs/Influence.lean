import SlideMerge.Placeholder.Resolver
import SlideMerge.Proofs.Filling

/-!
# What a filled deck depends on

A deck is filled with texts that come from a snapshot of a worksheet. Of all that is in the
snapshot, only the cells at the references of the specifications count, and the date system where
month and year are asked for.

* **A specification** has the same text in two snapshots that agree on it (`resolve_congr`).
* **A slide** that the deck has is filled alike if its specifications have the same texts. A slide
  that the deck does not have is skipped, whatever it asks for (`fillSlide_congr`).
* **A table** is then filled alike, with the same deck or the same failure (`fillOpened_congr`).

Main result: `rewrite_of_agree`.
-/

namespace SlideMerge.Placeholder

open Sheet

/-! ## Specifications -/

/-- Two snapshots that a specification cannot tell apart. At each of its references that is well
formed both have the same cell, and if it asks for month and year they have the same date system. -/
structure AgreeOn (spec : Spec) (s s' : Snapshot) : Prop where
  cells : ∀ ref ∈ spec.refs, ∀ cell cell', s.get ref = .ok cell → s'.get ref = .ok cell' →
    cell = cell'
  system : ∀ ref format, spec = .monthYear ref format → s.system = s'.system

/-- A malformed reference is malformed for every snapshot. -/
theorem get_eq_get {s s' : Snapshot} {ref : String}
    (h : ∀ cell cell', s.get ref = .ok cell → s'.get ref = .ok cell' → cell = cell') :
    s.get ref = s'.get ref := by
  simp only [Snapshot.get] at h ⊢
  cases hn : Reference.normalize ref with
  | error fault => rfl
  | ok name =>
    rw [hn] at h
    exact congrArg Except.ok (h _ _ rfl rfl)

theorem cellText_congr {s s' : Snapshot} {ref : String} (h : s.get ref = s'.get ref) :
    cellText s ref = cellText s' ref := by
  unfold cellText
  rw [h]

/-- **The text for a specification depends on the cells that it refers to.** -/
theorem resolve_congr {spec : Spec} {s s' : Snapshot} (h : AgreeOn spec s s') :
    resolve s spec = resolve s' spec := by
  have same : ∀ ref ∈ spec.refs, s.get ref = s'.get ref := fun ref hr => get_eq_get (h.cells ref hr)
  have looked : lookup s spec = lookup s' spec := by
    cases spec with
    | const value => rfl
    | cell ref =>
      have hc := cellText_congr (same ref List.mem_cons_self)
      rw [lookup, lookup, hc]
    | join refs separator =>
      have hc : refs.mapM (cellText s) = refs.mapM (cellText s') :=
        mapM_congr (List.forall₂_same.2 fun ref hr => cellText_congr (same ref hr))
      rw [lookup, lookup, joinText, joinText, hc]
    | monthYear ref format =>
      have hg := same ref List.mem_cons_self
      have hs := h.system ref format rfl
      rw [lookup, lookup, hg, hs]
  rw [resolve, resolve, looked]

end SlideMerge.Placeholder

namespace SlideMerge.Deck

open Text Archive Mapping Placeholder Sheet Workbook

variable {ε : Type}

/-! ## Slides -/

section

variable {encoding : Encoding} {deck : Archive} {resolve resolve' : Spec → Except ε String}

theorem textsFor_congr {placeholders : Keyed Spec}
    (h : ∀ entry ∈ placeholders, resolve entry.2 = resolve' entry.2) :
    textsFor resolve placeholders = textsFor resolve' placeholders :=
  mapM_congr (List.forall₂_same.2 fun entry he => congrArg ((entry.1, ·) <$> ·) (h entry he))

theorem fillData_congr {slide slide' : Slide} (hp : slide.page = slide'.page)
    (ht : textsFor resolve slide.placeholders = textsFor resolve' slide'.placeholders)
    (data : Bytes) :
    fillData encoding resolve slide data = fillData encoding resolve' slide' data := by
  rw [fillData, fillData, hp, ht]

/-- **A slide that the deck does not have asks for nothing.** -/
theorem fillSlide_congr {slide slide' : Slide} (hp : slide.page = slide'.page)
    (ht : deck.contains (slidePath slide.page) →
      textsFor resolve slide.placeholders = textsFor resolve' slide'.placeholders) :
    fillSlide encoding deck resolve slide = fillSlide encoding deck resolve' slide' := by
  cases hf : deck.find? (slidePath slide.page) with
  | none =>
    rw [fillSlide_of_none hf, fillSlide_of_none (hp ▸ hf)]
  | some e =>
    have present : deck.contains (slidePath slide.page) := by
      rw [contains_eq_isSome_find?, hf]
      rfl
    have data : fillData encoding resolve slide = fillData encoding resolve' slide' :=
      funext (fillData_congr hp (ht present))
    rw [fillSlide_of_some hf, fillSlide_of_some (hp ▸ hf), data, hp]

/-- **A table is filled alike if each of its slides is.** -/
theorem fillOpened_congr {slides slides' : List Slide}
    (h : List.Forall₂ (fun slide slide' => slide.page = slide'.page ∧
      fillSlide encoding deck resolve slide = fillSlide encoding deck resolve' slide')
      slides slides') :
    fillOpened encoding deck slides resolve = fillOpened encoding deck slides' resolve' := by
  have outcomes :
      (slides.mapM fun slide : Slide => (slide.page, ·) <$> fillSlide encoding deck resolve slide) =
        slides'.mapM fun slide : Slide =>
          (slide.page, ·) <$> fillSlide encoding deck resolve' slide := by
    refine mapM_congr (h.imp ?_)
    rintro slide slide' ⟨hp, hf⟩
    rw [hp, hf]
  rw [fillOpened, fillOpened, outcomes]

end

/-! ## Templates -/

/-- The specifications on the slides of a table that a deck has. -/
def Asked (deck : Archive) (table : Table) (spec : Spec) : Prop :=
  ∃ slide ∈ table.slides, deck.contains (slidePath slide.page) ∧
    ∃ token, (token, spec) ∈ slide.placeholders

/-- Two slides of one page that differ at most if the deck does not have the page. -/
def SameIfPresent (deck : Archive) (slide slide' : Slide) : Prop :=
  slide.page = slide'.page ∧
    (deck.contains (slidePath slide.page) → slide.placeholders = slide'.placeholders)

/-- The texts of specifications in a snapshot. -/
def textsFrom (s : Snapshot) (spec : Spec) : Except Empty String :=
  .ok (resolve s spec)

/-- **What no specification asks for has no influence.** Filled from two snapshots that agree on the
specifications of the slides that the deck has, a template becomes the same deck, or fails in the
same way. The specifications of other slides may be any. -/
theorem rewrite_of_agree {encoding : Encoding} {template : Upload} {table : Table}
    {s s' : Snapshot}
    (agree : ∀ deck, openTemplate template = .ok deck → ∀ spec, Asked deck table spec →
      AgreeOn spec s s') :
    rewrite encoding template table (textsFrom s) =
      rewrite encoding template table (textsFrom s') ∧
    ∀ table' : Table,
      (∀ deck, openTemplate template = .ok deck →
        List.Forall₂ (SameIfPresent deck) table.slides table'.slides) →
      rewrite encoding template table (textsFrom s) =
        rewrite encoding template table' (textsFrom s') := by
  have both (table' : Table) (slides : ∀ deck, openTemplate template = .ok deck →
      List.Forall₂ (SameIfPresent deck) table.slides table'.slides) :
      rewrite encoding template table (textsFrom s) =
        rewrite encoding template table' (textsFrom s') := by
    simp only [rewrite_eq_bind]
    refine bind_congr_ok fun deck hdeck => ?_
    have ho : openTemplate template = .ok deck := mapError_eq_ok.1 hdeck
    have asked := agree deck ho
    refine fillOpened_congr
      (((List.forall₂_and_left _ _).2 ⟨fun _ hs => hs, slides deck ho⟩).imp ?_)
    rintro slide slide' ⟨hs, hp, hplaceholders⟩
    refine ⟨hp, fillSlide_congr hp fun present => ?_⟩
    simp only [← hplaceholders present]
    refine textsFor_congr fun entry he => ?_
    exact congrArg Except.ok (resolve_congr (asked entry.2 ⟨slide, hs, present, entry.1, he⟩))
  exact ⟨both table fun _ _ => List.forall₂_same.2 fun _ _ => ⟨rfl, fun _ => rfl⟩, both⟩

/-- Cells on the second slide of the small deck, and a month on a slide that it does not have. -/
def cellTable : Table where
  id := "cells"
  label := "Cells"
  description := ""
  slides :=
    [{ page := 2
       placeholders := [("[A]", .cell " b2"), ("[B]", .join ["B2", "2B"] ", ")]
       page_pos := Nat.two_pos },
      { page := 31, placeholders := [("[C]", .monthYear "A1" .short)] }]

/-- The table with something else on the slide that the small deck does not have. -/
def otherCellTable : Table where
  id := "other"
  label := "Other"
  description := ""
  slides :=
    [{ page := 2
       placeholders := [("[A]", .cell " b2"), ("[B]", .join ["B2", "2B"] ", ")]
       page_pos := Nat.two_pos },
      { page := 31, placeholders := [("[A]", .cell "A1"), ("[B]", .const "unused")] }]

/-- A sheet with an integer in the first cell and a fixed text in another one. -/
def sheetWith (title : String) (n : Int) (system : DateSystem) : Snapshot where
  title := title
  cells :=
    [("A1", ⟨"A1", 1, 0, some (.integer n), none, "General"⟩),
      ("B2", ⟨"B2", 2, 1, some (.text "1 < 2"), some "1 < 2", "General"⟩)]
  system := system

def oneSheet : Snapshot :=
  sheetWith "one" 1 .from1900

/-- A sheet with another title, another date system and something else in the first cell. -/
def otherSheet : Snapshot :=
  sheetWith "other" 2 .from1904

/-- The second slide has a malformed reference, too. -/
theorem rewrite_of_agree_smallDeck :
    (∀ deck, openTemplate (.archive smallDeck) = .ok deck → ∀ spec, Asked deck cellTable spec →
      AgreeOn spec oneSheet otherSheet) ∧
    rewrite .utf8 (.archive smallDeck) cellTable (textsFrom oneSheet) =
      rewrite .utf8 (.archive smallDeck) cellTable (textsFrom otherSheet) ∧
    rewrite .utf8 (.archive smallDeck) cellTable (textsFrom oneSheet) =
      rewrite .utf8 (.archive smallDeck) otherCellTable (textsFrom otherSheet) := by
  have absent : ¬ smallDeck.contains (slidePath (31 : Nat)) := by decide +kernel
  have same : ∀ ref ∈ [" b2", "B2", "2B"], oneSheet.get ref = otherSheet.get ref := by
    decide +kernel
  have agreeOn (spec : Spec) (hr : spec.refs ⊆ [" b2", "B2", "2B"])
      (hm : ∀ ref format, spec ≠ .monthYear ref format) : AgreeOn spec oneSheet otherSheet :=
    { cells := fun ref href cell cell' h h' =>
        Except.ok.inj (h.symm.trans ((same ref (hr href)).trans h'))
      system := fun ref format h => absurd h (hm ref format) }
  have agree : ∀ deck, openTemplate (.archive smallDeck) = .ok deck → ∀ spec,
      Asked deck cellTable spec → AgreeOn spec oneSheet otherSheet := by
    rintro deck ho spec ⟨slide, hs, present, token, ht⟩
    obtain rfl : deck = smallDeck := Except.ok.inj (ho.symm.trans openTemplate_smallDeck)
    rcases List.mem_pair.1 hs with rfl | rfl
    · rcases List.mem_pair.1 ht with h | h
      · obtain ⟨-, rfl⟩ := Prod.mk.inj h
        exact agreeOn (.cell " b2") (by decide) fun _ _ => Spec.noConfusion
      · obtain ⟨-, rfl⟩ := Prod.mk.inj h
        exact agreeOn (.join ["B2", "2B"] ", ") (by decide) fun _ _ => Spec.noConfusion
    · exact absurd present absent
  obtain ⟨equal, other⟩ :=
    @rewrite_of_agree .utf8 (.archive smallDeck) cellTable oneSheet otherSheet agree
  refine ⟨agree, equal, other otherCellTable fun deck ho => ?_⟩
  obtain rfl : deck = smallDeck := Except.ok.inj (ho.symm.trans openTemplate_smallDeck)
  exact .cons ⟨rfl, fun _ => rfl⟩ (.cons ⟨rfl, fun present => absurd present absent⟩ .nil)

end SlideMerge.Deck
