import Mathlib.Data.List.Sort
import SlideMerge.Mapping.TableData
import SlideMerge.Proofs.Filling
import SlideMerge.Proofs.Keyed
import SlideMerge.Proofs.SpecChecks
import SlideMerge.Proofs.WrittenInteger

/-!
# Which data is a table

Plain data is accepted as a table if it has the shape of one, and only then. The shape is said from
the inside out: that of placeholders (`IsPlaceholders`), of a slide and the page that its number is
taken for (`IsSlide`), of slides whose pages are distinct (`IsSlides`), and of a table (`IsTable`).

**Pages** are compared as they are taken, so a page given as a number clashes with one given as its
digits. The pages that clash are reported once each and in ascending order (`mem_repeated`,
`repeated_ascending`).

**In a table** the page of a slide is its own, so a page has one slide (`Table.get?_eq_some_iff`), a
slide has a path of its own, and a token is counted once for each slide that it stands on
(`Table.nodup_places`).

Main result: `Table.check_wellFormed`.
-/

namespace SlideMerge.Mapping

open Text Numeric Plain Checked Placeholder

/-! ## Slides -/

/-- Specifications under tokens that are not empty. -/
def IsPlaceholders (d : Data) : Prop :=
  ∃ entries, d = .object entries ∧ ∀ e ∈ entries, e.1 ≠ "" ∧ IsSpec e.2

/-- A slide, and the page that its number is taken for. -/
def IsSlide (d : Data) (page : Nat) : Prop :=
  ∃ fields, d = .object fields ∧ Has fields "page" (Denotes · page) ∧ 1 ≤ page ∧
    MayHave fields "placeholders" IsPlaceholders

theorem checkPage_eq_ok {d : Data} {page : Nat} :
    checkPage d = .ok page ↔ Denotes d page ∧ 1 ≤ page := by
  rw [checkPage, ← checkInteger_eq_ok]
  cases checkInteger d with
  | error issues => exact iff_of_false (fun h => nomatch h) fun h => nomatch h.1
  | ok n =>
    dsimp only
    split_ifs with positive
    · rw [Except.ok.injEq, Except.ok.injEq]
      omega
    · rw [Except.ok.injEq]
      refine iff_of_false (fun h => nomatch h) ?_
      rintro ⟨rfl, h⟩
      exact positive (by exact_mod_cast h)

/-- The specifications of an object stand under its tokens, in the same order. -/
theorem checkSpecs_eq_ok {entries : List (String × Data)} {specs : List (String × Spec)} :
    checkSpecs entries = .ok specs ↔
      List.Forall₂ (fun e s => e.1 = s.1 ∧ Spec.check e.2 = .ok s.2) entries specs := by
  rw [checkSpecs, all_eq_ok, List.forall₂_map_left_iff]
  have entry (e : String × Data) (s : String × Spec) :
      ((under (.field e.1) (Spec.check e.2)).map fun spec => (e.1, spec)) = .ok s ↔
        e.1 = s.1 ∧ Spec.check e.2 = .ok s.2 := by
    obtain ⟨token, spec⟩ := s
    rw [Checked.map_eq_ok]
    simp only [under_eq_ok, Prod.mk.injEq]
    constructor
    · rintro ⟨spec, ok, rfl, rfl⟩
      exact ⟨rfl, ok⟩
    · rintro ⟨rfl, ok⟩
      exact ⟨spec, ok, rfl, rfl⟩
  simp only [entry]

theorem tokens_of_checkSpecs {entries : List (String × Data)} {specs : List (String × Spec)}
    (h : checkSpecs entries = .ok specs) : specs.map Prod.fst = entries.map Prod.fst := by
  have pairs := checkSpecs_eq_ok.1 h
  clear h
  induction pairs with
  | nil => rfl
  | cons pair _ ih => rw [List.map_cons, List.map_cons, pair.1, ih]

theorem exists_checkSpecs {entries : List (String × Data)} :
    (∃ specs, checkSpecs entries = .ok specs) ↔ ∀ e ∈ entries, IsSpec e.2 := by
  simp only [checkSpecs_eq_ok, exists_forall₂_iff, ← Spec.exists_check]
  refine forall₂_congr fun e _ => ?_
  constructor
  · rintro ⟨s, -, ok⟩
    exact ⟨s.2, ok⟩
  · rintro ⟨spec, ok⟩
    exact ⟨(e.1, spec), rfl, ok⟩

/-- **Placeholders are specifications, each put under its token**, and no token is empty. -/
theorem checkPlaceholders_eq_ok {d : Data} {placeholders : Keyed Spec} :
    checkPlaceholders d = .ok placeholders ↔
      ∃ entries specs, d = .object entries ∧ checkSpecs entries = .ok specs ∧
        "" ∉ entries.map Prod.fst ∧ Keyed.ofPairs specs = placeholders := by
  constructor
  · intro h
    cases d with
    | object entries =>
      rw [checkPlaceholders] at h
      split at h
      · next specs ok =>
        dsimp only at h
        split_ifs at h with empty
        · cases h
        · rw [Keyed.mem_keys_ofPairs, tokens_of_checkSpecs ok] at empty
          exact ⟨entries, specs, rfl, ok, empty, Except.ok.inj h⟩
      · cases h
    | _ => cases h
  · rintro ⟨entries, specs, rfl, ok, empty, rfl⟩
    rw [← tokens_of_checkSpecs ok, ← Keyed.mem_keys_ofPairs] at empty
    rw [checkPlaceholders, ok]
    dsimp only
    rw [if_neg empty]

theorem exists_checkPlaceholders {d : Data} :
    (∃ placeholders, checkPlaceholders d = .ok placeholders) ↔ IsPlaceholders d := by
  simp only [checkPlaceholders_eq_ok, IsPlaceholders]
  constructor
  · rintro ⟨_, entries, specs, rfl, ok, nonempty, -⟩
    have valid := exists_checkSpecs.1 ⟨specs, ok⟩
    refine ⟨entries, rfl, fun e he => ⟨fun empty => nonempty ?_, valid e he⟩⟩
    exact empty ▸ List.mem_map_of_mem he
  · rintro ⟨entries, rfl, shape⟩
    obtain ⟨specs, ok⟩ := exists_checkSpecs.2 fun e he => (shape e he).2
    refine ⟨_, entries, specs, rfl, ok, fun empty => ?_, rfl⟩
    obtain ⟨e, he, none⟩ := List.mem_map.1 empty
    exact (shape e he).1 none

theorem proper_of_checkPlaceholders {d : Data} {placeholders : Keyed Spec}
    (h : checkPlaceholders d = .ok placeholders) :
    "" ∉ placeholders.keys ∧ placeholders.keys.Nodup := by
  obtain ⟨entries, specs, -, ok, empty, rfl⟩ := checkPlaceholders_eq_ok.1 h
  rw [← tokens_of_checkSpecs ok, ← Keyed.mem_keys_ofPairs] at empty
  exact ⟨empty, Keyed.nodup_keys_ofPairs specs⟩

theorem ofParts?_eq_some {page : Nat} {placeholders : Keyed Spec} (positive : 1 ≤ page)
    (nonempty : "" ∉ placeholders.keys) (distinct : placeholders.keys.Nodup) :
    ∃ slide, Slide.ofParts? page placeholders = some slide ∧ slide.page = page ∧
      slide.placeholders = placeholders := by
  have proper : 0 < page ∧ (∀ token ∈ placeholders.keys, token ≠ "") ∧ placeholders.keys.Nodup :=
    ⟨positive, fun token ht empty => nonempty (empty ▸ ht), distinct⟩
  rw [Slide.ofParts?, dif_pos proper]
  exact ⟨_, rfl, rfl, rfl⟩

theorem eq_of_ofParts? {page : Nat} {placeholders : Keyed Spec} {slide : Slide}
    (h : Slide.ofParts? page placeholders = some slide) :
    slide.page = page ∧ slide.placeholders = placeholders := by
  rw [Slide.ofParts?] at h
  split_ifs at h
  rw [← Option.some.inj h]
  exact ⟨rfl, rfl⟩

theorem Slide.ext {slide slide' : Slide} (page : slide.page = slide'.page)
    (placeholders : slide.placeholders = slide'.placeholders) : slide = slide' := by
  cases slide
  cases slide'
  obtain rfl := page
  obtain rfl := placeholders
  rfl

/-- **A slide is made of its checked parts.** -/
theorem checkSlide_eq_ok {d : Data} {slide : Slide} :
    checkSlide d = .ok slide ↔
      ∃ fields, d = .object fields ∧ required fields "page" checkPage = .ok slide.page ∧
        optional fields "placeholders" checkPlaceholders [] = .ok slide.placeholders := by
  constructor
  · intro h
    cases d with
    | object fields =>
      rw [checkSlide] at h
      split at h
      · next page placeholders ok =>
        split at h
        · next slide' made =>
          obtain rfl := Except.ok.inj h
          obtain ⟨hp, hs⟩ := eq_of_ofParts? made
          rw [hp, hs]
          exact ⟨fields, rfl, both_ok_iff.1 ok⟩
        · cases h
      · cases h
    | _ => cases h
  · rintro ⟨fields, rfl, page, placeholders⟩
    have ok : both (required fields "page" checkPage)
        (optional fields "placeholders" checkPlaceholders []) =
        .ok (slide.page, slide.placeholders) := both_ok_iff.2 ⟨page, placeholders⟩
    have nonempty : "" ∉ slide.placeholders.keys := fun empty => slide.tokens_ne "" empty rfl
    obtain ⟨slide', made, hp, hs⟩ := ofParts?_eq_some slide.page_pos nonempty slide.tokens_nodup
    rw [checkSlide, ok]
    dsimp only
    rw [made, Slide.ext hp hs]

theorem exists_checkSlide {d : Data} {page : Nat} :
    (∃ slide, checkSlide d = .ok slide ∧ slide.page = page) ↔ IsSlide d page := by
  constructor
  · rintro ⟨slide, ok, rfl⟩
    obtain ⟨fields, rfl, hp, hs⟩ := checkSlide_eq_ok.1 ok
    obtain ⟨number, found, taken⟩ := required_eq_ok.1 hp
    obtain ⟨denotes, positive⟩ := checkPage_eq_ok.1 taken
    refine ⟨fields, rfl, ⟨number, found, denotes⟩, positive, fun d hd => ?_⟩
    exact exists_checkPlaceholders.1 (exists_optional.1 ⟨_, hs⟩ d hd)
  · rintro ⟨fields, rfl, ⟨number, found, denotes⟩, positive, shape⟩
    have taken : required fields "page" checkPage = .ok page :=
      required_eq_ok.2 ⟨number, found, checkPage_eq_ok.2 ⟨denotes, positive⟩⟩
    obtain ⟨placeholders, ok⟩ :
        ∃ placeholders, optional fields "placeholders" checkPlaceholders [] =
        .ok placeholders :=
      exists_optional.2 fun d hd => exists_checkPlaceholders.2 (shape d hd)
    -- A slide carries these facts about its tokens, also if none are given.
    have proper : "" ∉ placeholders.keys ∧ placeholders.keys.Nodup := by
      rcases optional_eq_ok.1 ok with ⟨d, -, hd⟩ | ⟨-, rfl⟩
      · exact proper_of_checkPlaceholders hd
      · exact ⟨List.not_mem_nil, List.nodup_nil⟩
    obtain ⟨slide, -, rfl, rfl⟩ := ofParts?_eq_some positive proper.1 proper.2
    exact ⟨slide, checkSlide_eq_ok.2 ⟨fields, rfl, taken, ok⟩, rfl⟩

/-- A number is taken for one page only. -/
theorem IsSlide.unique {d : Data} {page page' : Nat} (h : IsSlide d page) (h' : IsSlide d page') :
    page = page' := by
  obtain ⟨slide, ok, rfl⟩ := exists_checkSlide.2 h
  obtain ⟨slide', ok', rfl⟩ := exists_checkSlide.2 h'
  rw [Except.ok.inj (ok.symm.trans ok')]

/-! ## Distinct pages -/

/-- Slides of distinct pages. -/
def IsSlides (d : Data) : Prop :=
  ∃ items pages, d = .list items ∧ List.Forall₂ IsSlide items pages ∧ pages.Nodup

theorem exists_checkList_slides {items : List Data} {pages : List Nat} :
    (∃ slides, checkList checkSlide (.list items) = .ok slides ∧ slides.map Slide.page = pages) ↔
      List.Forall₂ IsSlide items pages := by
  simp only [checkList, items_eq_ok, exists_forall₂_map_iff, exists_checkSlide]

theorem nodup_eraseDups (ns : List Nat) : ns.eraseDups.Nodup := by
  -- What is left of the rest is shorter, but no part of it: the induction is on the length.
  induction size : ns.length using Nat.strongRecOn generalizing ns with
  | _ size' ih =>
    cases ns with
    | nil => exact List.nodup_nil
    | cons n rest =>
      have shorter : (rest.filter fun m => !(m == n)).length < size' := by
        have := List.length_filter_le (fun m => !(m == n)) rest
        rw [List.length_cons] at size
        omega
      rw [List.eraseDups_cons, List.nodup_cons, List.mem_eraseDups]
      refine ⟨?_, ih _ shorter _ rfl⟩
      simp

theorem mem_repeated {pages : List Nat} {page : Nat} :
    page ∈ repeated pages ↔ 1 < pages.count page := by
  rw [repeated, List.mem_mergeSort, List.mem_eraseDups, List.mem_filter, decide_eq_true_eq]
  refine ⟨And.right, fun h => ⟨List.count_pos_iff.1 (by omega), h⟩⟩

theorem repeated_ascending (pages : List Nat) : (repeated pages).Pairwise (· < ·) := by
  have once : (repeated pages).Nodup :=
    (List.mergeSort_perm _ _).nodup_iff.2 (nodup_eraseDups _)
  have ascending : (repeated pages).Pairwise (· ≤ ·) := List.pairwise_mergeSort' (· ≤ ·) _
  exact ascending.imp₂ (fun _ _ le ne => Nat.lt_of_le_of_ne le ne) once

theorem checkSlides_eq_ok {d : Data}
    {slides : {slides : List Slide // (slides.map Slide.page).Nodup}} :
    checkSlides d = .ok slides ↔ checkList checkSlide d = .ok slides.1 := by
  rw [checkSlides]
  cases checkList checkSlide d with
  | error issues => exact iff_of_false (fun h => nomatch h) fun h => nomatch h
  | ok found =>
    dsimp only
    split_ifs with distinct
    · rw [Except.ok.injEq, Except.ok.injEq, Subtype.ext_iff]
    · refine iff_of_false (fun h => nomatch h) ?_
      rintro ⟨rfl⟩
      exact distinct slides.2

theorem exists_checkSlides {d : Data} : (∃ slides, checkSlides d = .ok slides) ↔ IsSlides d := by
  constructor
  · rintro ⟨slides, ok⟩
    obtain ⟨items, rfl, -⟩ := checkList_eq_ok.1 (checkSlides_eq_ok.1 ok)
    exact ⟨items, _, rfl, exists_checkList_slides.1 ⟨_, checkSlides_eq_ok.1 ok, rfl⟩, slides.2⟩
  · rintro ⟨items, pages, rfl, shape, distinct⟩
    obtain ⟨slides, ok, rfl⟩ := exists_checkList_slides.2 shape
    exact ⟨⟨slides, distinct⟩, checkSlides_eq_ok.2 ok⟩

/-- What is said of pages that clash. -/
def clashCause (pages : List Nat) : IssueCause :=
  .rejected s!"Duplicate slide pages in mapping table: {bracketed pages}"

theorem checkSlides_clash {items : List Data} {pages : List Nat}
    (shape : List.Forall₂ IsSlide items pages) (clash : ¬ pages.Nodup) :
    checkSlides (.list items) = issue (clashCause (repeated pages)) := by
  obtain ⟨slides, ok, rfl⟩ := exists_checkList_slides.2 shape
  rw [checkSlides, ok]
  dsimp only
  rw [dif_neg clash]
  rfl

/-! ## Failures of slides -/

theorem explained_checkPage (d : Data) : Explained (checkPage d) := by
  rw [checkPage]
  split
  · split_ifs
    · exact explained_ok _
    · exact explained_issue _
  · next failed => exact explained_error failed (explained_checkInteger d)

theorem explained_checkPlaceholders (d : Data) : Explained (checkPlaceholders d) := by
  have specs (entries : List (String × Data)) : Explained (checkSpecs entries) := by
    refine explained_all fun c hc => ?_
    obtain ⟨e, -, rfl⟩ := List.mem_map.1 hc
    exact explained_map (explained_under (Spec.explained_check e.2))
  unfold checkPlaceholders
  split
  · split
    · dsimp only
      split_ifs
      · exact explained_issue _
      · exact explained_ok _
    · next failed => exact explained_error failed (specs _)
  · exact explained_issue _

theorem explained_checkSlide (d : Data) : Explained (checkSlide d) := by
  unfold checkSlide
  split
  · split
    · split
      · exact explained_ok _
      · exact explained_issue _
    · next failed =>
      exact explained_error failed (explained_both (explained_required explained_checkPage)
        (explained_optional explained_checkPlaceholders))
  · exact explained_issue _

theorem explained_checkSlides (d : Data) : Explained (checkSlides d) := by
  rw [checkSlides]
  split
  · split_ifs
    · exact explained_ok _
    · exact explained_issue _
  · next failed => exact explained_error failed (explained_checkList explained_checkSlide d)

/-! ## Tables -/

/-- The fields of a table, where the description and the slides may be left out. -/
def IsTable (d : Data) : Prop :=
  ∃ fields, d = .object fields ∧ Has fields "id" IsText ∧ Has fields "label" IsText ∧
    MayHave fields "description" IsText ∧ MayHave fields "slides" IsSlides

namespace Table

/-- **A table is made of its checked parts.** -/
theorem checkFields_eq_ok {fields : Keyed Data} {t : Table} :
    checkFields fields = .ok t ↔
      required fields "id" checkText = .ok t.id ∧ required fields "label" checkText = .ok t.label ∧
        optional fields "description" checkText "" = .ok t.description ∧
        optional fields "slides" checkSlides ⟨[], List.nodup_nil⟩ =
          .ok ⟨t.slides, t.pages_nodup⟩ := by
  rw [checkFields, Checked.map_eq_ok]
  constructor
  · rintro ⟨⟨id, label, description, slides⟩, ok, rfl⟩
    simpa only [both_ok_iff] using ok
  · intro h
    refine ⟨(t.id, t.label, t.description, ⟨t.slides, t.pages_nodup⟩), ?_, rfl⟩
    simpa only [both_ok_iff] using h

theorem check_eq_ok {d : Data} {t : Table} :
    check d = .ok t ↔ ∃ fields, d = .object fields ∧ checkFields fields = .ok t := by
  cases d <;> simp [check, issue_ne_ok]

/-- **Data is accepted as a table if it has the shape of one.** -/
theorem exists_check {d : Data} : (∃ t, check d = .ok t) ↔ IsTable d := by
  have parts (fields : Keyed Data) :
      (∃ t, checkFields fields = .ok t) ↔ Has fields "id" IsText ∧ Has fields "label" IsText ∧
        MayHave fields "description" IsText ∧ MayHave fields "slides" IsSlides := by
    rw [checkFields, exists_map, exists_both, exists_both, exists_both, exists_required,
      exists_required, exists_optional, exists_optional]
    simp only [exists_checkText, exists_checkSlides]
  simp only [check_eq_ok, IsTable, ← parts]
  constructor
  · rintro ⟨t, fields, object, ok⟩
    exact ⟨fields, object, t, ok⟩
  · rintro ⟨fields, object, t, ok⟩
    exact ⟨t, fields, object, ok⟩

theorem slides_of_check {fields : Keyed Data} {t : Table} {items : List Data}
    (ok : check (.object fields) = .ok t) (found : fields.find? "slides" = some (.list items)) :
    List.Forall₂ (fun item slide => checkSlide item = .ok slide) items t.slides := by
  rcases optional_eq_ok.1 (checkFields_eq_ok.1 ok).2.2.2 with ⟨d, here, slides⟩ | ⟨absent, -⟩
  · obtain rfl := Option.some.inj (found.symm.trans here)
    obtain ⟨_, ⟨⟩, each⟩ := checkList_eq_ok.1 (checkSlides_eq_ok.1 slides)
    exact each
  · exact nomatch found.symm.trans absent

theorem shape_of_check {fields : Keyed Data} {t : Table} {items : List Data}
    (ok : check (.object fields) = .ok t) (found : fields.find? "slides" = some (.list items)) :
    List.Forall₂ IsSlide items t.pages :=
  List.forall₂_map_right_iff.2 <|
    (slides_of_check ok found).imp fun _ slide read => exists_checkSlide.1 ⟨slide, read, rfl⟩

theorem pages_of_check {fields : Keyed Data} {t : Table} (ok : check (.object fields) = .ok t)
    (absent : fields.find? "slides" = none) : t.pages = [] := by
  rcases optional_eq_ok.1 (checkFields_eq_ok.1 ok).2.2.2 with ⟨d, here, -⟩ | ⟨-, none⟩
  · exact nomatch absent.symm.trans here
  · rw [pages, Subtype.mk.inj none, List.map_nil]

/-! ### Failures -/

theorem explained_check (d : Data) : Explained (check d) := by
  unfold check
  split
  · exact explained_map (explained_both (explained_required explained_checkText)
      (explained_both (explained_required explained_checkText)
        (explained_both (explained_optional explained_checkText)
          (explained_optional explained_checkSlides))))
  · exact explained_issue _

/-- The issue of pages that clash. -/
def clashIssue (clashing : List Nat) : Issue :=
  ⟨[.field "slides"], clashCause clashing⟩

section Clash

variable {fields : Keyed Data} {items : List Data} {pages : List Nat}

theorem optional_slides_clash (found : fields.find? "slides" = some (.list items))
    (shape : List.Forall₂ IsSlide items pages) (clash : ¬ pages.Nodup) :
    optional fields "slides" checkSlides ⟨[], List.nodup_nil⟩ =
      .error [clashIssue (repeated pages)] := by
  rw [Plain.optional, found]
  dsimp only
  rw [checkSlides_clash shape clash]
  rfl

/-- **Pages that clash are reported**, whatever else is wrong. -/
theorem reports_clash (found : fields.find? "slides" = some (.list items))
    (shape : List.Forall₂ IsSlide items pages) (clash : ¬ pages.Nodup) :
    Reports (check (.object fields)) (clashIssue (repeated pages)) := by
  have slides : Reports (optional fields "slides" checkSlides ⟨[], List.nodup_nil⟩)
      (clashIssue (repeated pages)) :=
    ⟨_, optional_slides_clash found shape clash, List.mem_singleton_self _⟩
  exact reports_map (reports_both_right _ (reports_both_right _ (reports_both_right _ slides)))

theorem check_clash (found : fields.find? "slides" = some (.list items))
    (shape : List.Forall₂ IsSlide items pages) (clash : ¬ pages.Nodup) (id : Has fields "id" IsText)
    (label : Has fields "label" IsText) (description : MayHave fields "description" IsText) :
    check (.object fields) = .error [clashIssue (repeated pages)] := by
  have text (name : String) (h : Has fields name IsText) :
      ∃ s, required fields name checkText = .ok s := by
    rw [exists_required]
    simpa only [exists_checkText] using h
  obtain ⟨_, hi⟩ := text "id" id
  obtain ⟨_, hl⟩ := text "label" label
  obtain ⟨_, hd⟩ : ∃ s, optional fields "description" checkText "" = .ok s := by
    rw [exists_optional]
    simpa only [exists_checkText] using description
  rw [check, checkFields, hi, hl, hd, optional_slides_clash found shape clash]
  rfl

end Clash

/-! ### Slides by their pages -/

section Pages

variable (t : Table)

/-- **A page has one slide.** -/
theorem get?_eq_some_iff {page : Int} {slide : Slide} :
    t.get? page = some slide ↔ slide ∈ t.slides ∧ (slide.page : Int) = page := by
  have found {other : Slide} (h : t.get? page = some other) :
      other ∈ t.slides ∧ (other.page : Int) = page := by
    rw [get?] at h
    exact ⟨List.mem_of_find?_eq_some h, by simpa using List.find?_some h⟩
  refine ⟨found, ?_⟩
  rintro ⟨member, rfl⟩
  cases h : t.get? slide.page with
  | none =>
    rw [get?, List.find?_eq_none] at h
    exact absurd (decide_eq_true rfl) (h slide member)
  | some other =>
    obtain ⟨member', same⟩ := found h
    rw [List.inj_on_of_nodup_map t.pages_nodup member' member (Int.ofNat_inj.1 same)]

theorem get?_eq_none_iff {page : Int} : t.get? page = none ↔ ∀ p ∈ t.pages, (p : Int) ≠ page := by
  rw [get?, List.find?_eq_none, pages, List.forall_mem_map]
  simp only [decide_eq_true_eq, ne_eq]

/-- The tokens with the pages that they stand on. -/
def places : List (Nat × String) :=
  t.slides.flatMap fun slide => slide.placeholders.keys.map fun token => (slide.page, token)

theorem mem_places {page : Nat} {token : String} :
    (page, token) ∈ t.places ↔
      ∃ slide, t.get? page = some slide ∧ token ∈ slide.placeholders.keys := by
  simp only [places, get?_eq_some_iff, List.mem_flatMap, List.mem_map, Prod.mk.injEq,
    Int.natCast_inj]
  constructor
  · rintro ⟨slide, member, token, there, rfl, rfl⟩
    exact ⟨slide, ⟨member, rfl⟩, there⟩
  · rintro ⟨slide, ⟨member, rfl⟩, there⟩
    exact ⟨slide, member, token, there, rfl, rfl⟩

theorem nodup_places : t.places.Nodup := by
  rw [places, List.nodup_flatMap]
  constructor
  · intro slide _
    exact slide.tokens_nodup.map fun token token' same => congrArg Prod.snd same
  · have distinct : t.slides.Pairwise fun slide slide' => slide.page ≠ slide'.page :=
      List.pairwise_map.1 t.pages_nodup
    refine distinct.imp fun apart place here there => ?_
    obtain ⟨_, -, rfl⟩ := List.mem_map.1 here
    obtain ⟨_, -, same⟩ := List.mem_map.1 there
    exact apart (congrArg Prod.fst same).symm

theorem length_places : t.places.length = t.tokenCount := by
  rw [places, tokenCount]
  induction t.slides with
  | nil => rfl
  | cons slide rest ih =>
    rw [List.flatMap_cons, List.length_append, ih, List.map_cons, total_cons, List.length_map,
      Keyed.keys, List.length_map]

theorem nodup_paths : (t.slides.map fun slide => Deck.slidePath slide.page).Nodup := by
  have paths := t.pages_nodup.map fun m n => Deck.slidePath_injective
  rwa [List.map_map] at paths

end Pages

/-- **Data is a table just if it has the shape of one, and a table tells its slides apart.** Other
data fails, with issues. Pages that clash are reported once each and in ascending order, and nothing
else is if nothing else is wrong. What is accepted keeps the order in which its slides are given. In
any table a page has its one slide, or none if it is not among the pages; the tokens are counted
once for each slide that they stand on; and the slides have different paths. A page is what its
number denotes, and a text denotes the integer that it prints, whatever white space is around it. -/
theorem check_wellFormed :
    (∀ d, (∃ t, check d = .ok t) ↔ IsTable d) ∧
    (∀ d, ¬ IsTable d → ∃ issues, check d = .error issues ∧ issues ≠ []) ∧
    (∀ (fields : Keyed Data) items pages, fields.find? "slides" = some (.list items) →
      List.Forall₂ IsSlide items pages → ¬ pages.Nodup →
      Reports (check (.object fields)) (clashIssue (repeated pages)) ∧
        (Has fields "id" IsText → Has fields "label" IsText → MayHave fields "description" IsText →
          check (.object fields) = .error [clashIssue (repeated pages)])) ∧
    (∀ pages, (repeated pages).Pairwise (· < ·) ∧
      ∀ page, page ∈ repeated pages ↔ 1 < pages.count page) ∧
    (∀ (fields : Keyed Data) t, check (.object fields) = .ok t →
      (∀ items, fields.find? "slides" = some (.list items) → List.Forall₂ IsSlide items t.pages) ∧
        (fields.find? "slides" = none → t.pages = [])) ∧
    (∀ t : Table,
      (∀ page slide, t.get? page = some slide ↔ slide ∈ t.slides ∧ (slide.page : Int) = page) ∧
      (∀ page, t.get? page = none ↔ ∀ p ∈ t.pages, (p : Int) ≠ page) ∧
      (t.tokenCount = t.places.length ∧ t.places.Nodup ∧ ∀ page token, (page, token) ∈ t.places ↔
        ∃ slide, t.get? page = some slide ∧ token ∈ slide.placeholders.keys) ∧
      (t.slides.map fun slide => Deck.slidePath slide.page).Nodup) ∧
    (∀ d page page', IsSlide d page → IsSlide d page' → page = page') ∧
    ∀ before after n, (∀ c ∈ before, isWhiteSpace c) → (∀ c ∈ after, isWhiteSpace c) →
      (decimalInt n).length ≤ maxIntegerDigits →
      Denotes (.text (String.ofList (before ++ decimalInt n ++ after))) n := by
  refine ⟨fun d => exists_check, ?_, ?_, ?_, ?_, ?_, ?_, ?_⟩
  · intro d misshapen
    cases failed : check d with
    | ok t => exact absurd (exists_check.1 ⟨t, failed⟩) misshapen
    | error issues => exact ⟨issues, rfl, fun none => explained_check d (none ▸ failed)⟩
  · intro fields items pages found shape clash
    exact ⟨reports_clash found shape clash, check_clash found shape clash⟩
  · intro pages
    exact ⟨repeated_ascending pages, fun page => mem_repeated⟩
  · intro fields t ok
    exact ⟨fun items found => shape_of_check ok found, pages_of_check ok⟩
  · intro t
    refine ⟨fun page slide => t.get?_eq_some_iff, fun page => t.get?_eq_none_iff, ?_, t.nodup_paths⟩
    exact ⟨t.length_places.symm, t.nodup_places, fun page token => t.mem_places⟩
  · exact fun d page page' => IsSlide.unique
  · intro before after n hb ha short
    exact .text (readWritten_decimalInt hb ha short)

/-- Slides of which two are for page 2 and two for page 5, in different writings. -/
def twofold : List Data :=
  [.object [("page", .integer 5)], .object [("page", .text " 2")],
    .object [("page", .integer 2)], .object [("page", .text "5")]]

/-- The fields of a table with some slides. -/
def crewFields (items : List Data) : Keyed Data :=
  [("id", .text "crew"), ("label", .text "Crew"), ("slides", .list items)]

/-- Both pages are reported, the smaller one first. The last two slides alone make a table. -/
theorem check_wellFormed_twofold :
    List.Forall₂ IsSlide twofold [5, 2, 2, 5] ∧ ¬ [5, 2, 2, 5].Nodup ∧
    check (.object (crewFields twofold)) = .error [clashIssue [2, 5]] ∧
    (∃ t, check (.object (crewFields (twofold.drop 2))) = .ok t ∧ t.pages = [2, 5] ∧
      t.get? 3 = none) ∧
    ¬ IsTable (.object []) ∧ ∃ issues, check (.object []) = .error issues ∧ issues ≠ [] := by
  obtain ⟨shape, failure, clash, ascending, order, table, one, printed⟩ := check_wellFormed
  have slide {d : Data} {page : Nat} (denotes : Denotes d page) (positive : 1 ≤ page) :
      IsSlide (.object [("page", d)]) page := by
    refine ⟨_, rfl, ⟨d, rfl, denotes⟩, positive, fun d' found => ?_⟩
    simp [Keyed.find?, List.lookup_cons] at found
  have space : ∀ c ∈ [' '], isWhiteSpace c := List.forall_mem_singleton.2 rfl
  have nothing : ∀ c ∈ [], isWhiteSpace c := List.forall_mem_nil _
  have two : Denotes (.text " 2") (2 : Nat) := printed [' '] [] 2 space nothing (by decide)
  have five : Denotes (.text "5") (5 : Nat) := printed [] [] 5 nothing nothing (by decide)
  have last : List.Forall₂ IsSlide (twofold.drop 2) [2, 5] :=
    .cons (slide (.integer 2) (by decide)) (.cons (slide five (by decide)) .nil)
  have all : List.Forall₂ IsSlide twofold [5, 2, 2, 5] :=
    .cons (slide (.integer 5) (by decide)) (.cons (slide two (by decide)) last)
  have twice : ¬ [5, 2, 2, 5].Nodup := by decide
  have clashing : repeated [5, 2, 2, 5] = [2, 5] := by
    refine (ascending _).1.eq_of_mem_iff (by decide) fun page => ?_
    rw [(ascending _).2]
    simp only [List.count_cons, List.count_nil, beq_iff_eq, List.mem_cons, List.not_mem_nil,
      or_false]
    grind
  have named (items : List Data) : Has (crewFields items) "id" IsText := ⟨_, rfl, _, rfl⟩
  have labelled (items : List Data) : Has (crewFields items) "label" IsText := ⟨_, rfl, _, rfl⟩
  have undescribed (items : List Data) : MayHave (crewFields items) "description" IsText := by
    intro d found
    simp [crewFields, Keyed.find?, List.lookup_cons] at found
  have rejected := (clash (crewFields twofold) twofold _ rfl all twice).2 (named _) (labelled _)
      (undescribed _)
  have accepted : IsTable (.object (crewFields (twofold.drop 2))) := by
    refine ⟨_, rfl, named _, labelled _, undescribed _, ?_⟩
    rintro d ⟨⟩
    exact ⟨_, _, rfl, last, by decide⟩
  obtain ⟨t, ok⟩ := (shape _).2 accepted
  have pages : t.pages = [2, 5] :=
    List.right_unique_forall₂' (fun d page page' => one d page page') ((order _ t ok).1 _ rfl) last
  have empty : ¬ IsTable (.object []) := by
    rintro ⟨fields, ⟨⟩, ⟨d, ⟨⟩, -⟩, -⟩
  refine ⟨all, twice, clashing ▸ rejected, ⟨t, ok, pages, ?_⟩, empty, failure _ empty⟩
  rw [(table t).2.1, pages]
  decide

end Table

end SlideMerge.Mapping
