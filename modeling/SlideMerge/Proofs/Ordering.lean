import Mathlib.Data.List.Forall2
import Mathlib.Data.List.Nodup
import Mathlib.Data.List.Perm.Basic
import SlideMerge.Proofs.Filling

/-!
# Filling in another order

Neither the order of the slides in a table nor that of the entries in an archive decides what a
slide becomes.

* **Slides.** Each slide is filled by itself, and its path is its own (`slidePath_injective`), so
  the new data under a path does not depend on when the slide has had its turn (`newData?_perm`).
* **Entries.** Where no name comes twice, a name stands for the same entry in whatever order the
  entries are (`find?_entries_perm`). The copies are in the order of the entries.

Main result: `rewrite_reordered`.
-/

namespace SlideMerge

/-! ## Places in a list -/

section Lists

variable {α β : Type}

/-- The elements at the given places, in the order of the places. -/
def arranged (places : List Nat) (xs : List α) : List α :=
  places.filterMap (xs[·]?)

theorem arranged_range (xs : List α) : arranged (List.range xs.length) xs = xs := by
  induction xs with
  | nil => rfl
  | cons x rest ih =>
    rw [List.length_cons, List.range_succ_eq_map, arranged, List.filterMap_cons]
    simp only [List.getElem?_cons_zero, List.filterMap_map]
    exact congrArg (x :: ·) ih

/-- A list with its elements at other places. -/
theorem arranged_perm {places : List Nat} {xs : List α} (h : places.Perm (List.range xs.length)) :
    (arranged places xs).Perm xs := by
  have hp : (arranged places xs).Perm (arranged (List.range xs.length) xs) := h.filterMap _
  rwa [arranged_range] at hp

theorem getElem?_forall₂ {R : α → β → Prop} {xs : List α} {ys : List β}
    (h : List.Forall₂ R xs ys) (place : Nat) : Option.Rel R xs[place]? ys[place]? := by
  induction h generalizing place with
  | nil => exact Option.Rel.none
  | cons hxy _ ih =>
    cases place with
    | zero => exact Option.Rel.some hxy
    | succ place => exact ih place

/-- Lists that are related place by place stay so if both are arranged in the same way. -/
theorem forall₂_arranged {R : α → β → Prop} {xs : List α} {ys : List β}
    (h : List.Forall₂ R xs ys) (places : List Nat) :
    List.Forall₂ R (arranged places xs) (arranged places ys) := by
  have same : List.Forall₂ (· = ·) places places := List.forall₂_eq_eq_eq ▸ rfl
  refine List.rel_filterMap (R := (· = ·)) (fun place _ hplace => ?_) same
  subst hplace
  exact getElem?_forall₂ h place

/-- Under keys that are all different, an element is found in whatever order the elements are. -/
theorem find?_key_perm {key : α → String} {xs ys : List α} (h : xs.Perm ys)
    (hn : (xs.map key).Nodup) (k : String) :
    (xs.find? fun x => key x = k) = ys.find? fun x => key x = k := by
  induction h with
  | nil => rfl
  | cons x _ ih =>
    rw [List.map_cons, List.nodup_cons] at hn
    rw [List.find?_cons, List.find?_cons, ih hn.2]
  | swap x y rest =>
    rw [List.map_cons, List.map_cons, List.nodup_cons] at hn
    have hne : key y ≠ key x := fun h => hn.1 (h ▸ List.mem_cons_self)
    simp only [List.find?_cons]
    by_cases hx : key x = k
    · have hy : key y ≠ k := fun hy => hne (hy.trans hx.symm)
      simp [hx, hy]
    · simp [hx]
  | trans hp _ ih ih' =>
    rw [ih hn, ih' ((hp.map key).nodup_iff.1 hn)]

end Lists

end SlideMerge

namespace SlideMerge.Deck

open Text Numeric Archive Mapping Placeholder Workbook

variable {ε : Type}

/-! ## Slides in another order -/

theorem newData?_perm {slides slides' : List FilledSlide} (h : slides'.Perm slides)
    (hn : (slides.map (·.page)).Nodup) (name : String) :
    newData? slides' name = newData? slides name := by
  have paths : (slides.map fun s => slidePath s.page).Nodup := by
    have hp := hn.map (f := fun page : Nat => slidePath page) fun _ _ => slidePath_injective
    rwa [List.map_map] at hp
  rw [newData?, newData?, find?_key_perm h.symm paths]

theorem copyEntry_congr {slides slides' : List FilledSlide} {e : Entry}
    (h : newData? slides' e.name = newData? slides e.name) :
    copyEntry slides' e = copyEntry slides e := by
  rw [copyEntry, copyEntry, h]

/-- The same deck, filled by a table that has the same slides in another order: the pages follow
that table. -/
structure FilledAlike (pages : List Nat) (f f' : Filled) : Prop where
  archive : f'.archive = f.archive
  replacements : f'.replacements = f.replacements
  filled : f'.filled.Perm f.filled
  skipped : f'.skipped.Perm f.skipped
  filled_sublist : f'.filled.Sublist pages
  skipped_sublist : f'.skipped.Sublist pages

section

variable {encoding : Encoding} {deck : Archive} {resolve : Spec → Except ε String}
  {slides slides' : List Slide} {f : Filled}

/-- **The order of the slides decides the order of the pages and nothing else.** -/
theorem fillOpened_perm (hn : (slides.map Slide.page).Nodup) (hp : slides'.Perm slides)
    (h : fillOpened encoding deck slides resolve = .ok f) :
    ∃ f', fillOpened encoding deck slides' resolve = .ok f' ∧
      FilledAlike (slides'.map Slide.page) f f' := by
  obtain ⟨outcomes, entries, ho, copies, rfl⟩ := fillOpened_eq_ok.1 h
  obtain ⟨outcomes', ho', hperm⟩ := List.perm_comp_forall₂ hp ho
  have filled : (filledSlides outcomes').Perm (filledSlides outcomes) := hperm.filterMap _
  have pages : ((filledSlides outcomes).map (·.page)).Nodup := by
    rw [map_page_filledSlides ho]
    exact hn.filter _
  have copies' : List.Forall₂ (fun e e' => copyEntry (filledSlides outcomes') e = .ok e')
      deck.entries entries := by
    refine copies.imp fun e e' hcopy => ?_
    rwa [copyEntry_congr (newData?_perm filled pages e.name)]
  refine ⟨.assemble ⟨deck.comment, entries⟩ outcomes',
    fillOpened_eq_ok.2 ⟨outcomes', entries, ho', copies', rfl⟩, ?_⟩
  exact
    { archive := rfl
      replacements := total_perm (filled.map _)
      filled := filled.map _
      skipped := hperm.filterMap _
      filled_sublist := by
        have hpages : (Filled.assemble ⟨deck.comment, entries⟩ outcomes').filled =
          (slides'.map Slide.page).filter _ := map_page_filledSlides ho'
        rw [hpages]
        exact List.filter_sublist
      skipped_sublist := by
        rw [skipped_assemble ho']
        exact List.filter_sublist }

end

/-! ## Entries in another order -/

/-- A name stands for the same entry in whatever order the entries are, if no name comes twice. -/
theorem find?_entries_perm {a b : Archive} (h : b.entries.Perm a.entries)
    (hn : (a.entries.map (·.name)).Nodup) (name : String) : b.find? name = a.find? name := by
  have hr : a.entries.reverse.Perm b.entries.reverse :=
    (a.entries.reverse_perm.trans h.symm).trans b.entries.reverse_perm.symm
  have names : (a.entries.reverse.map (·.name)).Nodup := by
    rw [List.map_reverse]
    exact List.nodup_reverse.2 hn
  exact (find?_key_perm hr names name).symm

/-- What becomes of a slide depends on the entry that its path stands for and on no other. -/
theorem fillSlide_congr_deck {encoding : Encoding} {deck deck' : Archive}
    {resolve : Spec → Except ε String} {slide : Slide}
    (h : deck'.find? (slidePath slide.page) = deck.find? (slidePath slide.page)) :
    fillSlide encoding deck' resolve slide = fillSlide encoding deck resolve slide := by
  rw [fillSlide, fillSlide, Archive.read?, Archive.read?, h]

/-- An archive with its entries at other places. -/
def arrangedArchive (places : List Nat) (a : Archive) : Archive :=
  ⟨a.comment, arranged places a.entries⟩

/-- **The copies are in the order of the entries,** and nothing else depends on it. -/
theorem fillOpened_arranged {encoding : Encoding} {deck : Archive}
    {resolve : Spec → Except ε String} {slides : List Slide} {f : Filled} {places : List Nat}
    (hp : places.Perm (List.range deck.entries.length))
    (hn : (deck.entries.map (·.name)).Nodup)
    (h : fillOpened encoding deck slides resolve = .ok f) :
    fillOpened encoding (arrangedArchive places deck) slides resolve =
      .ok { f with archive := arrangedArchive places f.archive } := by
  obtain ⟨outcomes, entries, ho, copies, rfl⟩ := fillOpened_eq_ok.1 h
  have hperm : (arrangedArchive places deck).entries.Perm deck.entries := arranged_perm hp
  refine fillOpened_eq_ok.2 ⟨outcomes, arranged places entries, ?_, ?_, rfl⟩
  · refine ho.imp fun slide o hout => ⟨hout.1, ?_⟩
    rw [fillSlide_congr_deck (find?_entries_perm hperm hn _)]
    exact hout.2
  · exact forall₂_arranged copies places

/-! ## Templates -/

theorem openTemplate_arranged {template : Upload} {deck : Archive} {places : List Nat}
    (h : openTemplate template = .ok deck) (hp : places.Perm (List.range deck.entries.length))
    (found : (arrangedArchive places deck).asFound = .ok (arrangedArchive places deck)) :
    openTemplate (.archive (arrangedArchive places deck)) =
      .ok (arrangedArchive places deck) := by
  refine openTemplate_archive found fun e he => ?_
  exact opened_of_openTemplate h e ((arranged_perm hp).subset he)

/-- **Filling does not depend on the order of slides or entries.** By a table with the same slides
in another order a deck is filled alike. If no name comes twice, a template with the same entries at
other places becomes a deck with the same copies at these places. -/
theorem rewrite_reordered {encoding : Encoding} {template : Upload} {table : Table}
    {resolve : Spec → Except ε String} {f : Filled}
    (h : rewrite encoding template table resolve = .ok f) :
    (∀ table' : Table, table'.slides.Perm table.slides →
      ∃ f', rewrite encoding template table' resolve = .ok f' ∧
        FilledAlike table'.pages f f') ∧
    ∀ deck, openTemplate template = .ok deck → (deck.entries.map (·.name)).Nodup →
      ∀ places, places.Perm (List.range deck.entries.length) →
        ((arrangedArchive places deck).asFound = .ok (arrangedArchive places deck) →
          openTemplate (.archive (arrangedArchive places deck)) =
            .ok (arrangedArchive places deck)) ∧
        ∀ template', openTemplate template' = .ok (arrangedArchive places deck) →
          rewrite encoding template' table resolve =
            .ok { f with archive := arrangedArchive places f.archive } := by
  obtain ⟨deck, ho, hf⟩ := rewrite_eq_ok.1 h
  constructor
  · intro table' hp
    obtain ⟨f', hf', alike⟩ := fillOpened_perm table.pages_nodup hp hf
    exact ⟨f', rewrite_eq_ok.2 ⟨deck, ho, hf'⟩, alike⟩
  · intro deck' ho' hn places hp
    obtain rfl : deck' = deck := Except.ok.inj (ho'.symm.trans ho)
    refine ⟨openTemplate_arranged ho hp, fun template' ht => ?_⟩
    exact rewrite_eq_ok.2 ⟨_, ht, fillOpened_arranged hp hn hf⟩

/-- A deck in which no name comes twice. -/
def plainDeck : Archive where
  comment := [33]
  entries :=
    [entryOfText (slidePath 2) "<t>[A]</t>" 1 [], entryOfText "docProps/app.xml" "[A]" 0 [7],
      entryOfText (slidePath 23) "[B][A]" 0 []]

/-- The slides of the plain deck, and one that it does not have. -/
def plainTable : Table where
  id := "plain"
  label := "Plain"
  description := ""
  slides :=
    [{ page := 2, placeholders := [("[A]", .const "1 < 2")], page_pos := Nat.two_pos },
      { page := 17, placeholders := [("[A]", .const "absent")] },
      { page := 23, placeholders := [("[A]", .const "[B]"), ("[B]", .const "&")] }]

/-- The same slides, the last one first. -/
def reversedTable : Table where
  id := "reversed"
  label := "Reversed"
  description := ""
  slides := plainTable.slides.reverse

/-- The plain deck with its slides filled. -/
def plainFilled : Filled where
  archive :=
    ⟨[33], List.zipWith Entry.withData plainDeck.entries
      [encodeUtf8 "<t>1 &lt; 2</t>".toList, encodeUtf8 "[A]".toList,
        encodeUtf8 "&amp;&amp;".toList]⟩
  filled := [2, 23]
  skipped := [17]
  replacements := 4

/-- The slides in reverse, and the last entry first. -/
theorem rewrite_reordered_plainDeck :
    rewrite .utf8 (.archive plainDeck) plainTable constantText = .ok plainFilled ∧
      reversedTable.slides.Perm plainTable.slides ∧
      (∃ f', rewrite .utf8 (.archive plainDeck) reversedTable constantText = .ok f' ∧
        FilledAlike [23, 17, 2] plainFilled f') ∧
      (plainDeck.entries.map (·.name)).Nodup ∧ [2, 0, 1].Perm (List.range 3) ∧
      rewrite .utf8 (.archive (arrangedArchive [2, 0, 1] plainDeck)) plainTable constantText =
        .ok { plainFilled with archive := arrangedArchive [2, 0, 1] plainFilled.archive } := by
  have run : rewrite .utf8 (.archive plainDeck) plainTable constantText = .ok plainFilled := by
    decide +kernel
  have opens : openTemplate (.archive plainDeck) = .ok plainDeck := by decide +kernel
  have reversed : reversedTable.slides.Perm plainTable.slides := List.reverse_perm _
  have names : (plainDeck.entries.map (·.name)).Nodup := by decide +kernel
  have places : [2, 0, 1].Perm (List.range 3) := by decide
  obtain ⟨slides, entries⟩ := rewrite_reordered run
  obtain ⟨arrangedOpens, arrangedRun⟩ := entries plainDeck opens names [2, 0, 1] places
  have found : (arrangedArchive [2, 0, 1] plainDeck).asFound =
      .ok (arrangedArchive [2, 0, 1] plainDeck) := by decide +kernel
  exact ⟨run, reversed, slides reversedTable reversed, names, places,
    arrangedRun _ (arrangedOpens found)⟩

end SlideMerge.Deck
