import Mathlib.Data.List.DropRight
import Mathlib.Data.List.TakeWhile
import SlideMerge.Text.Blank

/-!
# Texts without blanks around them

Trimming takes the blanks at the two ends of a text away and nothing else: a text is its trimmed
part with blanks around it (`exists_eq_append_trim`), the trimmed part neither begins nor ends with
a blank (`trimmed_trim`), and these two properties say what it is (`trim_eq_of_trimmed`).
-/

namespace SlideMerge.Text

/-- A text that neither begins nor ends with a blank. -/
structure Trimmed (cs : List Char) : Prop where
  first : ∀ c ∈ cs.head?, isBlank c = false
  last : ∀ c ∈ cs.getLast?, isBlank c = false

/-! ## Runs -/

section Runs

variable {α : Type} {p : α → Bool} {run rest : List α}

theorem takeWhile_run (hr : ∀ c ∈ run, p c) (hs : ∀ c ∈ rest.head?, p c = false) :
    (run ++ rest).takeWhile p = run := by
  rw [List.takeWhile_append_of_pos hr]
  cases rest with
  | nil => rw [List.takeWhile_nil, List.append_nil]
  | cons c rest => rw [List.takeWhile_cons_of_neg (by simp [hs c rfl]), List.append_nil]

theorem dropWhile_run (hr : ∀ c ∈ run, p c) (hs : ∀ c ∈ rest.head?, p c = false) :
    (run ++ rest).dropWhile p = rest := by
  rw [List.dropWhile_append_of_pos hr]
  cases rest with
  | nil => rfl
  | cons c rest => exact List.dropWhile_cons_of_neg (by simp [hs c rfl])

end Runs

/-- A text is cut before the run of one character at its end. -/
theorem rdropWhile_append_replicate (c : Char) (cs : List Char) :
    cs.rdropWhile (· == c) ++ List.replicate (cs.rtakeWhile (· == c)).length c = cs := by
  have run : cs.rtakeWhile (· == c) = List.replicate (cs.rtakeWhile (· == c)).length c := by
    refine List.eq_replicate_iff.2 ⟨rfl, fun d hd => ?_⟩
    have same : (d == c) = true := List.mem_rtakeWhile_imp (p := (· == c)) hd
    exact beq_iff_eq.1 same
  rw [← run, List.rdropWhile, List.rtakeWhile, ← List.reverse_append,
    List.takeWhile_append_dropWhile, List.reverse_reverse]

theorem getLast?_rdropWhile (c : Char) (cs : List Char) :
    ∀ d ∈ (cs.rdropWhile (· == c)).getLast?, d ≠ c := by
  intro d hd
  rw [List.rdropWhile, List.getLast?_reverse, Option.mem_def] at hd
  have other := List.head?_dropWhile_not (· == c) cs.reverse
  rw [hd] at other
  simpa using other

/-! ## One end -/

theorem head?_trimStart (cs : List Char) : ∀ c ∈ (trimStart cs).head?, isBlank c = false := by
  intro c hc
  rw [Option.mem_def] at hc
  have hd := List.head?_dropWhile_not isBlank cs
  rw [← trimStart, hc] at hd
  simpa using hd

theorem trimStart_eq {before cs : List Char} (hb : ∀ c ∈ before, isBlank c)
    (hc : ∀ c ∈ cs.head?, isBlank c = false) : trimStart (before ++ cs) = cs :=
  dropWhile_run hb hc

theorem trimStart_of_blank {cs : List Char} (h : ∀ c ∈ cs, isBlank c) : trimStart cs = [] :=
  List.dropWhile_eq_nil_iff.2 h

theorem exists_eq_append_trimStart (cs : List Char) :
    ∃ before, cs = before ++ trimStart cs ∧ ∀ c ∈ before, isBlank c :=
  ⟨cs.takeWhile isBlank, List.takeWhile_append_dropWhile.symm, fun _ hc =>
    List.mem_takeWhile_imp hc⟩

theorem trimEnd_eq {cs after : List Char} (ha : ∀ c ∈ after, isBlank c)
    (hc : ∀ c ∈ cs.getLast?, isBlank c = false) : trimEnd (cs ++ after) = cs := by
  have start : trimStart (cs ++ after).reverse = cs.reverse := by
    rw [List.reverse_append]
    refine trimStart_eq (fun c h => ha c (List.mem_reverse.1 h)) ?_
    rwa [List.head?_reverse]
  rw [trimEnd, start, List.reverse_reverse]

theorem exists_eq_trimEnd_append (cs : List Char) :
    ∃ after, cs = trimEnd cs ++ after ∧ ∀ c ∈ after, isBlank c := by
  obtain ⟨before, hcs, blank⟩ := exists_eq_append_trimStart cs.reverse
  refine ⟨before.reverse, ?_, fun c hc => blank c (List.mem_reverse.1 hc)⟩
  rw [trimEnd, ← List.reverse_append, ← hcs, List.reverse_reverse]

/-! ## Both ends -/

/-- A text that does not begin with a blank does not begin with one without its trailing blanks. -/
theorem head?_trimEnd {cs : List Char} (h : ∀ c ∈ cs.head?, isBlank c = false) :
    ∀ c ∈ (trimEnd cs).head?, isBlank c = false := by
  obtain ⟨after, kept, -⟩ := exists_eq_trimEnd_append cs
  intro c hc
  refine h c ?_
  rw [kept, List.head?_append]
  rw [Option.mem_def] at hc ⊢
  rw [hc, Option.some_or]

theorem trimmed_trim (cs : List Char) : Trimmed (trim cs) where
  first := head?_trimEnd (head?_trimStart cs)
  last := by
    rw [trim, trimEnd, List.getLast?_reverse]
    exact head?_trimStart _

theorem exists_eq_append_trim (cs : List Char) :
    ∃ before after, cs = before ++ trim cs ++ after ∧ (∀ c ∈ before, isBlank c) ∧
      ∀ c ∈ after, isBlank c := by
  obtain ⟨before, hb, blankBefore⟩ := exists_eq_append_trimStart cs
  obtain ⟨after, ha, blankAfter⟩ := exists_eq_trimEnd_append (trimStart cs)
  refine ⟨before, after, ?_, blankBefore, blankAfter⟩
  rw [trim, List.append_assoc, ← ha, ← hb]

theorem mem_trim {cs : List Char} {c : Char} (h : c ∈ cs) (hc : isBlank c = false) :
    c ∈ trim cs := by
  obtain ⟨before, after, parts, blankBefore, blankAfter⟩ := exists_eq_append_trim cs
  rw [parts, List.mem_append, List.mem_append] at h
  obtain (hb | ht) | ha := h
  · simp [blankBefore c hb] at hc
  · exact ht
  · simp [blankAfter c ha] at hc

/-- **Blanks around a text are what trimming takes away.** -/
theorem trim_eq_of_trimmed {before cs after : List Char} (h : Trimmed cs)
    (hb : ∀ c ∈ before, isBlank c) (ha : ∀ c ∈ after, isBlank c) :
    trim (before ++ cs ++ after) = cs := by
  by_cases empty : cs = []
  · have blank : ∀ c ∈ before ++ cs ++ after, isBlank c := by
      intro c hc
      rw [empty, List.append_nil] at hc
      exact (List.mem_append.1 hc).elim (hb c) (ha c)
    rw [trim, trimStart_of_blank blank, empty]
    rfl
  · have first : ∀ c ∈ (cs ++ after).head?, isBlank c = false := by
      rw [List.head?_append, List.head?_eq_some_head empty, Option.some_or]
      exact fun c hc => h.first c (List.head?_eq_some_head empty ▸ hc)
    have start : trimStart (before ++ cs ++ after) = cs ++ after := by
      rw [List.append_assoc]
      exact trimStart_eq hb first
    rw [trim, start, trimEnd_eq ha h.last]

theorem trim_of_trimmed {cs : List Char} (h : Trimmed cs) : trim cs = cs := by
  have nothing : ∀ c ∈ ([] : List Char), isBlank c := nofun
  have around := trim_eq_of_trimmed h nothing nothing
  rwa [List.nil_append, List.append_nil] at around

theorem trim_eq_nil_iff {cs : List Char} : trim cs = [] ↔ ∀ c ∈ cs, isBlank c := by
  constructor
  · intro empty c hc
    by_contra visible
    have kept := mem_trim hc (Bool.eq_false_iff.2 visible)
    rw [empty] at kept
    cases kept
  · intro blank
    rw [trim, trimStart_of_blank blank]
    rfl

/-! ## Texts that can be shown -/

/-- A text with something to show, and without blanks around it. -/
structure Presentable (cs : List Char) : Prop extends Trimmed cs where
  ne_nil : cs ≠ []

theorem presentable_trim {cs : List Char} (h : trim cs ≠ []) : Presentable (trim cs) :=
  ⟨trimmed_trim cs, h⟩

/-- Whatever stands between two texts that can be shown, the three together can be shown. -/
theorem Presentable.append {cs ds : List Char} (hc : Presentable cs) (hd : Presentable ds)
    (between : List Char) : Presentable (cs ++ (between ++ ds)) where
  first := by
    rw [List.head?_append, List.head?_eq_some_head hc.ne_nil, Option.some_or]
    exact fun c h => hc.first c (List.head?_eq_some_head hc.ne_nil ▸ h)
  last := by
    rw [List.getLast?_append, List.getLast?_append, List.getLast?_eq_some_getLast hd.ne_nil,
      Option.some_or, Option.some_or]
    exact fun c h => hd.last c (List.getLast?_eq_some_getLast hd.ne_nil ▸ h)
  ne_nil := List.append_ne_nil_of_left_ne_nil hc.ne_nil _

theorem presentable_of_no_blank {cs : List Char} (hn : cs ≠ [])
    (h : ∀ c ∈ cs, isBlank c = false) : Presentable cs where
  first := fun c hc => h c (List.mem_of_mem_head? hc)
  last := fun c hc => h c (List.mem_of_getLast? hc)
  ne_nil := hn

end SlideMerge.Text
