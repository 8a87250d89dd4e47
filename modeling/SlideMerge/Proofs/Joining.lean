import SlideMerge.Proofs.Resolving

/-!
# Joined cells

A join puts a separator between the texts of several cells. `N/A` is what joining ignores: a cell
without a text of its own resolves to `N/A`, and a join leaves out whatever resolves to it.

**Kept texts.** The texts that a join keeps (`keptTexts`) are those that its references resolve to
one by one, less `N/A`. The text of a cell can be shown as it is, so trimming it once more, as a
join does, changes nothing, and there are no empty texts to leave out (`survivors_eq_filter`). A
join is therefore its kept texts with the separator between them, or `N/A` if there are none
(`resolve_join_kept`).

**Joins of joins.** What is kept of two lists of references is what is kept of the one followed by
what is kept of the other (`keptTexts_append`), and the separator stands between the two only if
neither is empty (`joined_append`). References to missing cells add nothing
(`keptTexts_of_missing`).

**Legible references.** So it is if all references are legible: well-formed, and leading to a cell
that can be written or to none. One that is not turns the whole join into `N/A`
(`resolve_join_of_not_legible`).

Main result: `resolve_join`.
-/

namespace SlideMerge.Placeholder

open Text Sheet

/-! ## Missing cells -/

/-- Nothing to show: no cell at all, or a cell that can be written and has no content or a blank
text. -/
def IsMissing : Option Cell → Prop
  | none => True
  | some cell => cell.isBlank = .ok true ∨
      cell.isBlank = .ok false ∧ ∃ text, cell.displayText = .ok text ∧ ∀ c ∈ text, isBlank c

theorem textOfCell_of_missing {cell : Option Cell} (h : IsMissing cell) :
    textOfCell cell = .ok notAvailable.toList := by
  cases cell with
  | none => rfl
  | some cell =>
    rcases h with blank | ⟨filled, text, shown, blank⟩
    · obtain ⟨-, text, -, shown⟩ := Cell.exists_displayText (Cell.isBlank_eq_ok blank)
      rw [textOfCell_some blank shown, Bool.true_or, if_pos rfl]
    · rw [textOfCell_some filled shown, trim_eq_nil_iff.2 blank, List.isEmpty_nil, Bool.or_true,
        if_pos rfl]

theorem textOfCell_of_present {cell : Cell} (writable : cell.IsWritable)
    (present : ¬ IsMissing (some cell)) {text : List Char} (h : cell.displayText = .ok text) :
    textOfCell (some cell) = .ok (trim text) := by
  obtain ⟨blank, -, hb, -⟩ := Cell.exists_displayText writable
  cases blank with
  | true => exact absurd (Or.inl hb) present
  | false =>
    have something : ¬ (false || (trim text).isEmpty) = true := by
      rw [Bool.false_or, List.isEmpty_iff, trim_eq_nil_iff]
      exact fun nothing => present (Or.inr ⟨hb, text, h, nothing⟩)
    rw [textOfCell_some hb h, if_neg something]

theorem isWritable_of_missing {cell : Option Cell} (h : IsMissing cell) :
    ∀ c ∈ cell, c.IsWritable :=
  exists_textOfCell_iff.1 ⟨_, textOfCell_of_missing h⟩

/-- **A cell resolves to its trimmed text, or to `N/A` if it is missing.** -/
theorem resolve_cell {sheet : Snapshot} {ref : String} {cell : Option Cell} {text : List Char}
    (h : sheet.get ref = .ok cell) (ht : textOfCell cell = .ok text) :
    resolve sheet (.cell ref) = String.ofList text := by
  have found : cellText sheet ref = .ok text :=
    bind_eq_ok.2 ⟨cell, mapError_eq_ok.2 h, mapError_eq_ok.2 ht⟩
  exact resolve_eq (map_eq_ok.2 ⟨text, found, rfl⟩)

theorem resolve_missing {sheet : Snapshot} {ref : String} {cell : Option Cell}
    (h : sheet.get ref = .ok cell) (missing : IsMissing cell) :
    resolve sheet (.cell ref) = notAvailable := by
  rw [resolve_cell h (textOfCell_of_missing missing), String.ofList_toList]

theorem resolve_present {sheet : Snapshot} {ref : String} {cell : Cell} {text : List Char}
    (h : sheet.get ref = .ok (some cell)) (writable : cell.IsWritable)
    (present : ¬ IsMissing (some cell)) (ht : cell.displayText = .ok text) :
    resolve sheet (.cell ref) = String.ofList (trim text) :=
  resolve_cell h (textOfCell_of_present writable present ht)

/-- **A cell that can be written resolves to `N/A` if it is missing, or if it reads so itself.** -/
theorem resolve_cell_eq_notAvailable_iff {sheet : Snapshot} {ref : String} {cell : Option Cell}
    (h : sheet.get ref = .ok cell) (writable : ∀ c ∈ cell, c.IsWritable) :
    resolve sheet (.cell ref) = notAvailable ↔
      IsMissing cell ∨ ∃ c text, cell = some c ∧ c.displayText = .ok text ∧
        trim text = notAvailable.toList := by
  by_cases missing : IsMissing cell
  · exact iff_of_true (resolve_missing h missing) (Or.inl missing)
  · cases cell with
    | none => exact absurd trivial missing
    | some cell =>
      obtain ⟨-, text, -, ht⟩ := Cell.exists_displayText (writable cell rfl)
      rw [resolve_present h (writable cell rfl) missing ht, ← String.toList_inj,
        String.toList_ofList]
      constructor
      · intro reads
        exact Or.inr ⟨cell, text, rfl, ht, reads⟩
      · rintro (impossible | ⟨c, text', same, ht', reads⟩)
        · exact absurd impossible missing
        · obtain rfl := Option.some.inj same
          obtain rfl := Except.ok.inj (ht.symm.trans ht')
          exact reads

/-! ## Kept texts -/

/-- The texts that references resolve to one by one, less `N/A`. -/
def keptTexts (sheet : Snapshot) (refs : List String) : List String :=
  (refs.map fun ref => resolve sheet (.cell ref)).filter (· ≠ notAvailable)

/-- Texts with a separator between them; `N/A` if there are none. -/
def joined (separator : String) (texts : List String) : String :=
  if texts = [] then notAvailable else separator.intercalate texts

section

variable {sheet : Snapshot} {refs : List String}

theorem keptTexts_append (xs ys : List String) :
    keptTexts sheet (xs ++ ys) = keptTexts sheet xs ++ keptTexts sheet ys := by
  rw [keptTexts, List.map_append, List.filter_append]
  rfl

theorem keptTexts_of_missing
    (h : ∀ ref ∈ refs, ∃ cell, sheet.get ref = .ok cell ∧ IsMissing cell) :
    keptTexts sheet refs = [] := by
  rw [keptTexts, List.filter_eq_nil_iff]
  intro text ht
  obtain ⟨ref, hr, rfl⟩ := List.mem_map.1 ht
  obtain ⟨cell, found, missing⟩ := h ref hr
  rw [resolve_missing found missing]
  decide

theorem joined_append (separator : String) (texts texts' : List String) :
    joined separator (texts ++ texts') =
      if texts = [] then joined separator texts'
      else if texts' = [] then joined separator texts
      else joined separator texts ++ separator ++ joined separator texts' := by
  split_ifs with first second
  · rw [first, List.nil_append]
  · rw [second, List.append_nil]
  · rw [joined, joined, joined, if_neg first, if_neg second,
      if_neg (List.append_ne_nil_of_left_ne_nil first texts'),
      String.intercalate_append_of_ne_nil first second]

end

/-! ## Joins -/

theorem survivors_eq_filter {texts : List String} (h : ∀ text ∈ texts, Presentable text.toList) :
    survivors (texts.map String.toList) = (texts.filter (· ≠ notAvailable)).map String.toList := by
  have trimmed : (texts.map String.toList).map trim = texts.map String.toList := by
    rw [List.map_map]
    exact List.map_congr_left fun text ht => trim_of_trimmed (h text ht).toTrimmed
  rw [survivors, trimmed, List.filter_map]
  refine congrArg (List.map String.toList) (List.filter_congr fun text ht => ?_)
  have nonempty : text.toList.isEmpty = false := List.isEmpty_eq_false_iff.2 (h text ht).ne_nil
  rw [Function.comp_apply, nonempty, Bool.not_false, Bool.true_and, Bool.eq_iff_iff, bne_iff_ne,
    decide_eq_true_eq, ne_eq, String.toList_inj]

theorem ofList_joinTexts (separator : String) (texts : List String) :
    String.ofList (joinTexts separator.toList (texts.map String.toList)) =
      joined separator texts := by
  cases texts with
  | nil => exact String.ofList_toList
  | cons text rest =>
    rw [joined, if_neg (List.cons_ne_nil text rest), ← String.toList_inj, String.toList_intercalate,
      String.toList_ofList]
    rfl

section

variable {sheet : Snapshot} {separator : String}

theorem cellText_eq_resolve {ref : String} (h : Legible sheet ref) :
    cellText sheet ref = .ok (resolve sheet (.cell ref)).toList := by
  have looked : lookup sheet (.cell ref) = .ok (resolve sheet (.cell ref)) :=
    lookup_eq_ok_resolve fun ref' hr => List.mem_singleton.1 hr ▸ h
  obtain ⟨text, found, written⟩ := map_eq_ok.1 looked
  rw [found, ← written, String.toList_ofList]

/-- **A join of legible references is its kept texts with the separator between them.** -/
theorem resolve_join_kept {refs : List String} (h : ∀ ref ∈ refs, Legible sheet ref) :
    resolve sheet (.join refs separator) = joined separator (keptTexts sheet refs) := by
  have texts : refs.mapM (cellText sheet) =
      .ok ((refs.map fun ref => resolve sheet (.cell ref)).map String.toList) := by
    rw [mapM_eq_ok, List.forall₂_map_right_iff, List.forall₂_map_right_iff, List.forall₂_same]
    exact fun ref hr => cellText_eq_resolve (h ref hr)
  have shown : ∀ text ∈ refs.map fun ref => resolve sheet (.cell ref), Presentable text.toList := by
    intro text ht
    obtain ⟨ref, -, rfl⟩ := List.mem_map.1 ht
    exact presentable_resolve fun value => Spec.noConfusion
  have found : lookup sheet (.join refs separator) =
      .ok (String.ofList
        (joinTexts separator.toList ((keptTexts sheet refs).map String.toList))) := by
    rw [lookup, joinText, texts, keptTexts, ← survivors_eq_filter shown]
    rfl
  rw [resolve, found]
  exact ofList_joinTexts separator (keptTexts sheet refs)

theorem legible_of_missing {ref : String}
    (h : ∃ cell, sheet.get ref = .ok cell ∧ IsMissing cell) : Legible sheet ref := by
  obtain ⟨cell, found, missing⟩ := h
  exact legible_iff.2 ⟨cell, found, isWritable_of_missing missing⟩

/-- **One reference that is not legible turns the whole join into `N/A`.** -/
theorem resolve_join_of_not_legible {refs : List String} (h : ∃ ref ∈ refs, ¬ Legible sheet ref) :
    resolve sheet (.join refs separator) = notAvailable := by
  obtain ⟨ref, member, illegible⟩ := h
  refine resolve_of_ne_ok fun text looked => illegible ?_
  obtain ⟨shown, joined, -⟩ := map_eq_ok.1 looked
  obtain ⟨texts, found, -⟩ := bind_eq_ok.1 joined
  exact exists_mapM_cellText_iff.1 ⟨texts, found⟩ ref member

/-- **References to missing cells change nothing in a join**, wherever they stand. -/
theorem resolve_join_insert {xs zs ys : List String}
    (missing : ∀ ref ∈ zs, ∃ cell, sheet.get ref = .ok cell ∧ IsMissing cell) :
    resolve sheet (.join (xs ++ zs ++ ys) separator) =
      resolve sheet (.join (xs ++ ys) separator) := by
  -- A reference that is not legible settles both joins; without one, the kept texts are compared.
  by_cases illegible : ∃ ref ∈ xs ++ ys, ¬ Legible sheet ref
  · obtain ⟨ref, member, hr⟩ := illegible
    have among : ref ∈ xs ++ zs ++ ys := by
      rw [List.mem_append] at member
      rw [List.mem_append, List.mem_append]
      exact member.imp_left Or.inl
    have fewer : resolve sheet (.join (xs ++ ys) separator) = notAvailable :=
      resolve_join_of_not_legible ⟨ref, member, hr⟩
    rw [fewer]
    exact resolve_join_of_not_legible ⟨ref, among, hr⟩
  · push Not at illegible
    have legible : ∀ ref ∈ xs ++ zs ++ ys, Legible sheet ref := by
      intro ref member
      rw [List.mem_append, List.mem_append] at member
      obtain (hx | hz) | hy := member
      · exact illegible ref (List.mem_append_left ys hx)
      · exact legible_of_missing (missing ref hz)
      · exact illegible ref (List.mem_append_right xs hy)
    rw [resolve_join_kept legible, resolve_join_kept illegible, keptTexts_append,
      keptTexts_append, keptTexts_of_missing missing, List.append_nil, ← keptTexts_append]

end

/-- **What joins resolve to.** What a join keeps is what its references resolve to one by one, less
`N/A`, so that a cell that reads `N/A` counts as a missing one. A join of legible references is what
it keeps with the separator between, or `N/A` if it keeps nothing. Cut in two, it is the joins of
both parts with the separator between, or that of one part if the other part keeps nothing.
References to missing cells change nothing, whatever the other references are. One reference that is
malformed, or leads to a cell that cannot be written, turns the whole join into `N/A`. -/
theorem resolve_join (sheet : Snapshot) (separator : String) :
    (∀ ref cell, sheet.get ref = .ok cell → (∀ c ∈ cell, c.IsWritable) →
      (resolve sheet (.cell ref) = notAvailable ↔
        IsMissing cell ∨ ∃ c text, cell = some c ∧ c.displayText = .ok text ∧
          trim text = notAvailable.toList) ∧
      ∀ c text, cell = some c → c.displayText = .ok text → ¬ IsMissing cell →
        resolve sheet (.cell ref) = String.ofList (trim text)) ∧
    (∀ refs, (∀ ref ∈ refs, Legible sheet ref) →
      resolve sheet (.join refs separator) =
        if keptTexts sheet refs = [] then notAvailable
        else separator.intercalate (keptTexts sheet refs)) ∧
    (∀ xs ys, (∀ ref ∈ xs ++ ys, Legible sheet ref) →
      resolve sheet (.join (xs ++ ys) separator) =
        if keptTexts sheet xs = [] then resolve sheet (.join ys separator)
        else if keptTexts sheet ys = [] then resolve sheet (.join xs separator)
        else resolve sheet (.join xs separator) ++ separator ++
          resolve sheet (.join ys separator)) ∧
    (∀ xs zs ys, (∀ ref ∈ zs, ∃ cell, sheet.get ref = .ok cell ∧ IsMissing cell) →
      resolve sheet (.join (xs ++ zs ++ ys) separator) =
        resolve sheet (.join (xs ++ ys) separator)) ∧
    ∀ refs, (∃ ref ∈ refs, Reference.Malformed ref ∨
        ∃ c, sheet.get ref = .ok (some c) ∧ ¬ c.IsWritable) →
      resolve sheet (.join refs separator) = notAvailable := by
  refine ⟨?_, ?_, ?_, ?_, ?_⟩
  · intro ref cell found writable
    refine ⟨resolve_cell_eq_notAvailable_iff found writable, ?_⟩
    rintro c text rfl shown present
    exact resolve_present found (writable c rfl) present shown
  · intro refs legible
    rw [resolve_join_kept legible, joined]
  · intro xs ys legible
    have left : ∀ ref ∈ xs, Legible sheet ref :=
      fun ref hr => legible ref (List.mem_append_left ys hr)
    have right : ∀ ref ∈ ys, Legible sheet ref :=
      fun ref hr => legible ref (List.mem_append_right xs hr)
    rw [resolve_join_kept legible, resolve_join_kept left, resolve_join_kept right,
      keptTexts_append, joined_append]
  · intro xs zs ys missing
    exact resolve_join_insert missing
  · rintro refs ⟨ref, member, broken⟩
    refine resolve_join_of_not_legible ⟨ref, member, fun legible => ?_⟩
    rcases broken with malformed | ⟨c, found, unwritable⟩
    · exact legible.wellFormed malformed
    · exact unwritable (legible.writable c found)

/-- The blank cell of a row of five. -/
def blankCell : Cell :=
  ⟨"C1", 1, 2, some (.text " "), none, "General"⟩

/-- A row with a text after a blank, a cell that reads `N/A`, a blank one and a name. -/
def crewSheet : Snapshot where
  title := "Crew"
  cells :=
    [("A1", ⟨"A1", 1, 0, some (.text " Ann"), some " Ann", "General"⟩),
      ("B1", ⟨"B1", 1, 1, some (.text "N/A"), some "N/A", "General"⟩), ("C1", blankCell),
      ("D1", ⟨"D1", 1, 3, some (.text "Lee"), none, "General"⟩)]
  system := .from1900

/-- A separator that reads `N/A` itself stands between what is kept, and only there. -/
theorem resolve_join_crewSheet :
    (∀ ref ∈ ["$a$1", "B1"] ++ ["D1"], Legible crewSheet ref) ∧
    (∀ ref ∈ ["C1", "Z9"], ∃ cell, crewSheet.get ref = .ok cell ∧ IsMissing cell) ∧
    (∃ ref ∈ ["A1", "2B"], Reference.Malformed ref ∨
      ∃ c, crewSheet.get ref = .ok (some c) ∧ ¬ c.IsWritable) ∧
    (∀ c ∈ some blankCell, c.IsWritable) ∧
    resolve crewSheet (.cell "C1") = "N/A" ∧
    resolve crewSheet (.join ["$a$1", "B1", "D1"] "N/A") = "AnnN/ALee" ∧
    resolve crewSheet (.join ["$a$1", "B1", "C1", "Z9", "D1"] "N/A") = "AnnN/ALee" ∧
    resolve crewSheet (.join ["A1", "2B"] "N/A") = "N/A" := by
  have legible : ∀ ref ∈ ["$a$1", "B1"] ++ ["D1"], Legible crewSheet ref := by
    have found : ∀ ref ∈ ["$a$1", "B1"] ++ ["D1"], (cellText crewSheet ref).isOk := by
      decide +kernel
    intro ref member
    rw [← exists_cellText_iff]
    cases shown : cellText crewSheet ref with
    | ok text => exact ⟨text, rfl⟩
    | error fault =>
      have ok := found ref member
      rw [shown] at ok
      cases ok
  have blank : crewSheet.get "C1" = .ok (some blankCell) := by decide +kernel
  have blankMissing : IsMissing (some blankCell) := Or.inl (by decide)
  have missing : ∀ ref ∈ ["C1", "Z9"], ∃ cell, crewSheet.get ref = .ok cell ∧ IsMissing cell := by
    have absent : crewSheet.get "Z9" = .ok none := by decide +kernel
    rintro ref (_ | ⟨_, _ | ⟨_, ⟨⟩⟩⟩)
    · exact ⟨_, blank, blankMissing⟩
    · exact ⟨_, absent, trivial⟩
  have malformed : Reference.Malformed "2B" :=
    Reference.malformed_iff.2 ⟨.malformed "2B", by decide +kernel⟩
  have broken : ∃ ref ∈ ["A1", "2B"], Reference.Malformed ref ∨
      ∃ c, crewSheet.get ref = .ok (some c) ∧ ¬ c.IsWritable :=
    ⟨"2B", by decide, Or.inl malformed⟩
  have writable := isWritable_of_missing blankMissing
  obtain ⟨cells, whole, cut, insert, unresolved⟩ := resolve_join crewSheet "N/A"
  have first : keptTexts crewSheet ["$a$1", "B1"] = ["Ann"] := by decide +kernel
  have second : keptTexts crewSheet ["D1"] = ["Lee"] := by decide +kernel
  have parts := cut ["$a$1", "B1"] ["D1"] legible
  rw [first, second, if_neg (List.cons_ne_nil _ _), if_neg (List.cons_ne_nil _ _),
    whole _ fun ref hr => legible ref (List.mem_append_left _ hr),
    whole _ fun ref hr => legible ref (List.mem_append_right _ hr), first, second] at parts
  have joined : resolve crewSheet (.join ["$a$1", "B1", "D1"] "N/A") = "AnnN/ALee" :=
    parts.trans (by decide)
  have nothing := (cells _ _ blank writable).1.2 (Or.inl blankMissing)
  refine ⟨legible, missing, broken, writable, nothing, joined, ?_, unresolved _ broken⟩
  exact (insert ["$a$1", "B1"] ["C1", "Z9"] ["D1"] missing).trans joined

end SlideMerge.Placeholder
