import SlideMerge.Proofs.Filling

/-!
# Filling a filled deck

A filled deck is a template again, if a reader finds the archive that has been written. Most
archives are found as they are; one with bytes that look like another end record is not, and filling
such a deck can bring about bytes that do (`rewrite_misleadingDeck`).

The entries of a filled deck are copies, so they open as they are, can be read, and are not changed
by being copied once more (`copyEntry_again`). What filling it does depends on the slides.

* **The same slides.** If no text overlaps a token (`Apart`), no token is left in a filled slide
  (`fillData_again`). A second pass then replaces nothing, and the deck stays the same.
* **Other slides.** Slides of other pages have the data that they had before
  (`fillSlide_of_copied`). A second pass does to them what it would have done first, so one pass
  does for two (`copyEntry_append`).

Main results: `rewrite_again` and `rewrite_append`.
-/

namespace SlideMerge.Deck

open Text Archive Mapping Placeholder Workbook

variable {ε : Type}

/-- No text of a slide overlaps a token of it. -/
def Apart (resolve : Spec → Except ε String) (slide : Slide) : Prop :=
  ∀ entry ∈ slide.placeholders, ∀ value, resolve entry.2 = .ok value →
    ∀ token ∈ slide.placeholders.keys, NonOverlapping token.toList (escapeMarkup value.toList)

/-- The data of a slide in which no token is left. -/
def NoTokens (encoding : Encoding) (slide : Slide) (data : Bytes) : Prop :=
  ∃ text, encoding.decode data = .ok text ∧
    ∀ token ∈ slide.placeholders.keys, ¬ token.toList <:+: text

/-- A filled slide in which nothing was to be replaced. -/
def FilledSlide.unreplaced (s : FilledSlide) : FilledSlide :=
  { s with replacements := 0 }

/-! ## Copies of copies -/

section Copies

variable {slides more : List FilledSlide} {e e' e'' : Entry}

theorem copyEntry_name (h : copyEntry slides e = .ok e') : e'.name = e.name := by
  obtain ⟨-, -, rfl⟩ := copyEntry_eq_ok.1 h
  rfl

theorem copyEntry_again (h : copyEntry slides e = .ok e')
    (hm : newData? more e.name = newData? slides e.name) : copyEntry more e' = .ok e' := by
  obtain ⟨hk, -, rfl⟩ := copyEntry_eq_ok.1 h
  refine copyEntry_eq_ok.2
    ⟨Entry.storable_withData hk _, fun _ => Entry.readable_withData hk.known _, ?_⟩
  have hname : newData? more (e.withData ((newData? slides e.name).getD e.data)).name =
      newData? slides e.name := hm
  rw [hname, Entry.withData_withData]
  cases newData? slides e.name <;> rfl

/-- **Copying a copy is copying once,** if new data comes from one of the passes only. -/
theorem copyEntry_append (h : copyEntry slides e = .ok e') (h' : copyEntry more e' = .ok e'')
    (hd : newData? slides e.name = none ∨ newData? more e.name = none) :
    copyEntry (slides ++ more) e = .ok e'' := by
  obtain ⟨hk, hr, rfl⟩ := copyEntry_eq_ok.1 h
  obtain ⟨-, -, rfl⟩ := copyEntry_eq_ok.1 h'
  have hname (data : Bytes) : newData? more (e.withData data).name = newData? more e.name := rfl
  refine copyEntry_eq_ok.2 ⟨hk, fun hn => ?_, ?_⟩
  · -- an entry that neither pass fills has been read by the first one
    rw [newData?_append, Option.or_eq_none_iff] at hn
    exact hr hn.1
  · rw [newData?_append, Entry.withData_withData, hname]
    rcases hd with hd | hd
    · rw [hd, Option.none_or]
      rfl
    · rw [hd, Option.or_none]
      rfl

end Copies

/-! ## A slide of a filled deck -/

section Slide

variable {encoding : Encoding} {resolve : Spec → Except ε String} {slide : Slide}

/-- **No token is left in a filled slide,** and filling it again changes nothing. -/
theorem fillData_again (apart : Apart resolve slide) {data : Bytes} {s : FilledSlide}
    (h : fillData encoding resolve slide data = .ok s) :
    NoTokens encoding slide s.data ∧
      fillData encoding resolve slide s.data = .ok s.unreplaced := by
  obtain ⟨text, texts, -, hr, hd, hp, -⟩ := fillData_eq_ok.1 h
  have hdecode := Encoding.decode_of_encode hd
  have absent : ∀ token ∈ slide.placeholders.keys,
      ¬ token.toList <:+: (substitute (replacements texts) text).1 := by
    intro token htoken
    refine not_infix_substitute (fun pair hm => ?_) (fun pair hm => ?_) (Or.inl ?_)
    · obtain ⟨token', htoken', hpair⟩ := exists_token_of_mem hr hm
      rw [hpair]
      exact toList_ne_nil htoken'
    · obtain ⟨entry, he, value, hv, hpair⟩ :=
        exists_of_mem_right (replacements_of_textsFor hr) pair hm
      rw [hpair]
      dsimp only
      exact apart entry he value hv token htoken
    · rw [map_fst_replacements, keys_of_textsFor hr]
      exact List.mem_map_of_mem htoken
  have again : substitute (replacements texts) (substitute (replacements texts) text).1 =
      ((substitute (replacements texts) text).1, 0) := by
    refine substitute_of_absent fun pair hm => ?_
    obtain ⟨token, htoken, hpair⟩ := exists_token_of_mem hr hm
    rw [hpair]
    exact ⟨toList_ne_nil htoken, absent token htoken⟩
  refine ⟨⟨_, hdecode, absent⟩, fillData_eq_ok.2 ⟨_, texts, hdecode, hr, ?_, hp, ?_⟩⟩
  · rw [again]
    exact hd
  · rw [again]
    rfl

variable {deck filled : Archive} {slides : List FilledSlide}

theorem fillSlide_again
    (copies : List.Forall₂ (fun e e' => copyEntry slides e = .ok e') deck.entries filled.entries)
    (apart : deck.contains (slidePath slide.page) → Apart resolve slide)
    {s : Option FilledSlide} (h : fillSlide encoding deck resolve slide = .ok s)
    (hn : newData? slides (slidePath slide.page) = s.map (·.data)) :
    fillSlide encoding filled resolve slide = .ok (s.map FilledSlide.unreplaced) := by
  have names : ∀ e e', copyEntry slides e = .ok e' → e'.name = e.name := fun _ _ => copyEntry_name
  cases s with
  | none =>
    have hnone := fillSlide_eq_ok_none.1 h
    exact fillSlide_eq_ok_none.2 ((find?_eq_none_iff names copies).1 hnone)
  | some s =>
    obtain ⟨e, he, -, hs⟩ := fillSlide_eq_ok_some.1 h
    obtain ⟨e', he', hcopy⟩ := exists_find?_right names copies he
    obtain ⟨hk, -, rfl⟩ := copyEntry_eq_ok.1 hcopy
    refine fillSlide_eq_ok_some.2 ⟨_, he', Entry.readable_withData hk.known _, ?_⟩
    have hdata : (newData? slides e.name).getD e.data = s.data := by
      rw [name_of_find? he, hn]
      rfl
    have hcontains : deck.contains (slidePath slide.page) := by
      rw [contains_eq_isSome_find?, he]
      rfl
    rw [hdata]
    exact (fillData_again (apart hcontains) hs).2

theorem fillSlide_of_copied
    (copies : List.Forall₂ (fun e e' => copyEntry slides e = .ok e') deck.entries filled.entries)
    (hn : newData? slides (slidePath slide.page) = none) {s : Option FilledSlide}
    (h : fillSlide encoding filled resolve slide = .ok s) :
    fillSlide encoding deck resolve slide = .ok s := by
  have names : ∀ e e', copyEntry slides e = .ok e' → e'.name = e.name := fun _ _ => copyEntry_name
  cases s with
  | none =>
    have hnone := fillSlide_eq_ok_none.1 h
    exact fillSlide_eq_ok_none.2 ((find?_eq_none_iff names copies).2 hnone)
  | some s =>
    obtain ⟨e', he', -, hs⟩ := fillSlide_eq_ok_some.1 h
    obtain ⟨e, he, hcopy⟩ := exists_find?_left names copies he'
    obtain ⟨-, hr, rfl⟩ := copyEntry_eq_ok.1 hcopy
    rw [← name_of_find? he] at hn
    rw [hn] at hs
    exact fillSlide_eq_ok_some.2 ⟨e, he, hr hn, hs⟩

end Slide

/-! ## The same slides again -/

/-- What becomes of a slide in which nothing is to be replaced. -/
def unreplacedOutcome (o : Nat × Option FilledSlide) : Nat × Option FilledSlide :=
  (o.1, o.2.map FilledSlide.unreplaced)

theorem filledSlides_map_unreplaced (outcomes : List (Nat × Option FilledSlide)) :
    filledSlides (outcomes.map unreplacedOutcome) =
      (filledSlides outcomes).map FilledSlide.unreplaced := by
  rw [filledSlides, List.filterMap_map, filledSlides, List.map_filterMap]
  rfl

theorem newData?_map_unreplaced (slides : List FilledSlide) (name : String) :
    newData? (slides.map FilledSlide.unreplaced) name = newData? slides name := by
  rw [newData?, List.find?_map, Option.map_map]
  rfl

theorem assemble_map_unreplaced (archive : Archive) (outcomes : List (Nat × Option FilledSlide)) :
    Filled.assemble archive (outcomes.map unreplacedOutcome) =
      { Filled.assemble archive outcomes with replacements := 0 } := by
  simp [Filled.assemble, filledSlides_map_unreplaced, FilledSlide.unreplaced, unreplacedOutcome,
    Function.comp_def]

section Pass

variable {encoding : Encoding} {resolve : Spec → Except ε String} {deck : Archive}
  {slides : List Slide} {f : Filled}

theorem noTokens_of_fillOpened (hn : (slides.map Slide.page).Nodup)
    (apart : ∀ slide ∈ slides, deck.contains (slidePath slide.page) → Apart resolve slide)
    (h : fillOpened encoding deck slides resolve = .ok f) {slide : Slide} (hs : slide ∈ slides)
    {e' : Entry} (he' : e' ∈ f.archive.entries) (hname : e'.name = slidePath slide.page) :
    NoTokens encoding slide e'.data := by
  obtain ⟨outcomes, entries, ho, copies, rfl⟩ := fillOpened_eq_ok.1 h
  obtain ⟨e, he, hcopy⟩ := exists_of_mem_right copies e' he'
  rw [copyEntry_name hcopy] at hname
  obtain ⟨s, hf, hd⟩ := data_of_copyEntry ho hn he hcopy hs hname
  obtain ⟨last, -, -, hfill⟩ := fillSlide_eq_ok_some.1 hf
  rw [hd]
  exact (fillData_again (apart slide hs (contains_iff.2 ⟨e, he, hname⟩)) hfill).1

/-- **A second pass over the same slides replaces nothing.** -/
theorem fillOpened_again (hn : (slides.map Slide.page).Nodup)
    (apart : ∀ slide ∈ slides, deck.contains (slidePath slide.page) → Apart resolve slide)
    (h : fillOpened encoding deck slides resolve = .ok f) :
    fillOpened encoding f.archive slides resolve = .ok { f with replacements := 0 } := by
  obtain ⟨outcomes, entries, ho, copies, rfl⟩ := fillOpened_eq_ok.1 h
  refine fillOpened_eq_ok.2 ⟨outcomes.map unreplacedOutcome, entries, ?_, ?_, ?_⟩
  · rw [List.forall₂_map_right_iff]
    refine ((List.forall₂_and_left _ _).2 ⟨fun _ hs => hs, ho⟩).imp ?_
    rintro slide o ⟨hs, hout⟩
    refine ⟨hout.1, fillSlide_again copies (apart slide hs) hout.2 ?_⟩
    exact newData?_slidePath ho hn hs hout.2
  · rw [filledSlides_map_unreplaced]
    refine List.forall₂_same.2 fun e' he' => ?_
    obtain ⟨e, -, hcopy⟩ := exists_of_mem_right copies e' he'
    exact copyEntry_again hcopy (newData?_map_unreplaced _ _)
  · rw [assemble_map_unreplaced]
    rfl

theorem opened_of_fillOpened (hopen : ∀ e ∈ deck.entries, e.opened = .ok e)
    (h : fillOpened encoding deck slides resolve = .ok f) :
    ∀ e' ∈ f.archive.entries, e'.opened = .ok e' := by
  obtain ⟨outcomes, entries, -, copies, rfl⟩ := fillOpened_eq_ok.1 h
  intro e' he'
  obtain ⟨e, he, hcopy⟩ := exists_of_mem_right copies e' he'
  obtain ⟨-, -, rfl⟩ := copyEntry_eq_ok.1 hcopy
  exact Entry.opened_withData (hopen e he) _

end Pass

/-- **A filled deck that is found as it is opens as it is.** -/
theorem openTemplate_file {encoding : Encoding} {template : Upload} {slides : List Slide}
    {resolve : Spec → Except ε String} {deck : Archive} {f : Filled}
    (ho : openTemplate template = .ok deck)
    (h : fillOpened encoding deck slides resolve = .ok f)
    (found : f.archive.asFound = .ok f.archive) : openTemplate f.file = .ok f.archive :=
  openTemplate_archive found (opened_of_fillOpened (opened_of_openTemplate ho) h)

theorem asFound_smallFilled : smallFilled.archive.asFound = .ok smallFilled.archive := by
  decide +kernel

theorem apart_firstTable : ∀ slide ∈ firstTable.slides, Apart constantText slide := by
  have texts : ∀ slide ∈ firstTable.slides, ∀ entry ∈ slide.placeholders,
      ∀ value ∈ (constantText entry.2).toOption, ∀ token ∈ slide.placeholders.keys,
        NonOverlapping token.toList (escapeMarkup value.toList) := by
    decide +kernel
  intro slide hs entry he value hv
  refine texts slide hs entry he value ?_
  rw [hv]
  rfl

/-- A record whose bytes look like the end record of a large archive without entries and like what
locates it. -/
def endLookalike : Bytes :=
  [0xAA, 0, 76, 0] ++ (largeEndMark ++ List.replicate 52 0) ++
    (locatorMark ++ List.replicate 12 0 ++ [1, 0, 0, 0])

/-- A deck whose last entry has such a record, followed by a record for large entries. -/
def misleadingDeck : Archive where
  comment := []
  entries :=
    [entryOfText (slidePath 2) "[A]" 1 [],
      entryOfText (slidePath 20) "[C]" 1 (endLookalike ++ [1, 0, 0, 0])]

/-- The deck with its first slide filled. The record for large entries is dropped, and the directory
ends in what looks like an end record. -/
def misleadingFilled : Filled where
  archive :=
    ⟨[], List.zipWith Entry.withData misleadingDeck.entries
      [encodeUtf8 "1 &lt; 2".toList, encodeUtf8 "[C]".toList]⟩
  filled := [2]
  skipped := [15]
  replacements := 1

theorem rewrite_misleadingDeck :
    rewrite .utf8 (.archive misleadingDeck) firstTable constantText = .ok misleadingFilled := by
  decide +kernel

theorem filledSlides_append (outcomes more : List (Nat × Option FilledSlide)) :
    filledSlides (outcomes ++ more) = filledSlides outcomes ++ filledSlides more :=
  List.filterMap_append

theorem assemble_append (archive : Archive) (outcomes more : List (Nat × Option FilledSlide)) :
    Filled.assemble archive (outcomes ++ more) =
      { archive := archive
        filled :=
          (Filled.assemble archive outcomes).filled ++ (Filled.assemble archive more).filled
        skipped :=
          (Filled.assemble archive outcomes).skipped ++ (Filled.assemble archive more).skipped
        replacements := (Filled.assemble archive outcomes).replacements +
          (Filled.assemble archive more).replacements } := by
  simp [Filled.assemble, filledSlides_append]

/-- **One pass over all slides does for two passes** over different slides. -/
theorem fillOpened_append {encoding : Encoding} {resolve : Spec → Except ε String} {deck : Archive}
    {slides more : List Slide} {f g : Filled}
    (disjoint : (slides.map Slide.page).Disjoint (more.map Slide.page))
    (hf : fillOpened encoding deck slides resolve = .ok f)
    (hg : fillOpened encoding f.archive more resolve = .ok g) :
    fillOpened encoding deck (slides ++ more) resolve =
      .ok ⟨g.archive, f.filled ++ g.filled, f.skipped ++ g.skipped,
        f.replacements + g.replacements⟩ := by
  obtain ⟨outcomes, entries, ho, copies, rfl⟩ := fillOpened_eq_ok.1 hf
  obtain ⟨outcomes', entries', ho', copies', rfl⟩ := fillOpened_eq_ok.1 hg
  have paths : ∀ slide ∈ more, newData? (filledSlides outcomes) (slidePath slide.page) = none := by
    intro slide hs
    refine newData?_of_ne ho fun slide' hs' hpath => ?_
    have hpage := slidePath_injective hpath
    exact disjoint (List.mem_map_of_mem hs') (hpage ▸ List.mem_map_of_mem hs)
  refine fillOpened_eq_ok.2 ⟨outcomes ++ outcomes', entries', ?_, ?_, ?_⟩
  · refine List.rel_append ho (((List.forall₂_and_left _ _).2 ⟨fun _ hs => hs, ho'⟩).imp ?_)
    rintro slide o ⟨hs, hout⟩
    exact ⟨hout.1, fillSlide_of_copied copies (paths slide hs) hout.2⟩
  · rw [filledSlides_append]
    refine forall₂_trans (fun e e' e'' hcopy hcopy' => ?_) copies copies'
    refine copyEntry_append hcopy hcopy' ?_
    by_cases hpath : ∃ slide ∈ more, e.name = slidePath slide.page
    · obtain ⟨slide, hs, hname⟩ := hpath
      rw [hname]
      exact Or.inl (paths slide hs)
    · exact Or.inr (newData?_of_ne ho' fun slide hs hname => hpath ⟨slide, hs, hname⟩)
  · rw [assemble_append]
    rfl

/-- The slides of a second pass: an empty one, and one that the small deck does not have. -/
def secondTable : Table where
  id := "second"
  label := "Second"
  description := ""
  slides :=
    [{ page := 20, placeholders := [("[C]", .const "20")] }, { page := 21, placeholders := [] }]

/-- The slides of both passes. -/
def bothTables : Table where
  id := "both"
  label := "Both"
  description := ""
  slides := firstTable.slides ++ secondTable.slides

end SlideMerge.Deck
