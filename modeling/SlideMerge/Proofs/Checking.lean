import SlideMerge.Plain.Check
import SlideMerge.Proofs.Serial
import SlideMerge.Proofs.Traversal

/-!
# What checks of plain data accept

A check of an object, of a list or of several things side by side accepts if the checks of the parts
do, and its value is put together from theirs (`required_eq_ok`, `optional_eq_ok`, `items_eq_ok`).
So what data has to be like is said field by field: a field is there (`Has`), or it may be left out
(`MayHave`).

**Defaults.** A field that is left out since its value goes without saying reads as if it were there
(`FieldFor`).

**Integers.** Data is taken for an integer if it denotes one (`Denotes`), which it does in four
ways.

**Failures** have issues to show (`Explained`), and what a part reports is reported by the whole
(`Reports`).
-/

namespace SlideMerge.Plain

open Numeric

variable {α β : Type}

/-! ## Fields -/

section Fields

variable (fields : Keyed Data) (name : String) (p : Data → Prop)

/-- A field that is there, with data of some kind. -/
def Has : Prop :=
  ∃ d, fields.find? name = some d ∧ p d

/-- A field that is left out, or has data of some kind. -/
def MayHave : Prop :=
  ∀ d, fields.find? name = some d → p d

end Fields

namespace Checked

theorem issue_ne_ok {cause : IssueCause} {a : α} : (issue cause : Checked α) ≠ .ok a :=
  error_ne_ok

theorem under_eq_ok {step : Step} {c : Checked α} {a : α} : under step c = .ok a ↔ c = .ok a :=
  mapError_eq_ok

theorem map_eq_ok {c : Checked α} {f : α → β} {b : β} :
    c.map f = .ok b ↔ ∃ a, c = .ok a ∧ f a = b :=
  SlideMerge.map_eq_ok

theorem exists_map {c : Checked α} {f : α → β} : (∃ b, c.map f = .ok b) ↔ ∃ a, c = .ok a := by
  cases c <;> simp [Except.map]

theorem exists_both {a : Checked α} {b : Checked β} :
    (∃ p, both a b = .ok p) ↔ (∃ x, a = .ok x) ∧ ∃ y, b = .ok y := by
  cases a <;> cases b <;> simp [both]

/-- **Checks side by side accept if each of them does.** -/
theorem all_eq_ok {cs : List (Checked α)} {xs : List α} :
    all cs = .ok xs ↔ List.Forall₂ (fun c x => c = .ok x) cs xs := by
  induction cs generalizing xs with
  | nil =>
    rw [all, List.forall₂_nil_left_iff]
    exact ⟨fun h => (Except.ok.inj h).symm, fun h => h ▸ rfl⟩
  | cons c rest ih =>
    rw [all, map_eq_ok, List.forall₂_cons_left_iff]
    constructor
    · rintro ⟨⟨x, more⟩, both, rfl⟩
      obtain ⟨hx, hm⟩ := both_ok_iff.1 both
      exact ⟨x, more, hx, ih.1 hm, rfl⟩
    · rintro ⟨x, more, hx, hm, rfl⟩
      exact ⟨(x, more), both_ok_iff.2 ⟨hx, ih.2 hm⟩, rfl⟩

/-- **A list is accepted if each item is.** The places of the items are for issues only. -/
theorem items_eq_ok {check : Data → Checked α} {ds : List Data} {xs : List α} :
    items check ds = .ok xs ↔ List.Forall₂ (fun d x => check d = .ok x) ds xs := by
  have placed (place : Nat → Step) :
      List.Forall₂ (fun c x => c = .ok x) (ds.mapIdx fun i d => under (place i) (check d)) xs ↔
        List.Forall₂ (fun d x => check d = .ok x) ds xs := by
    induction ds generalizing place xs with
    | nil => rw [List.mapIdx_nil, List.forall₂_nil_left_iff, List.forall₂_nil_left_iff]
    | cons d rest ih =>
      rw [List.mapIdx_cons, List.forall₂_cons_left_iff, List.forall₂_cons_left_iff]
      simp only [under_eq_ok, ih fun i => place (i + 1)]
  rw [items, all_eq_ok]
  exact placed .item

end Checked

open Checked

section

variable {fields : Keyed Data} {name : String} {check : Data → Checked α} {default a : α}

theorem required_eq_ok :
    required fields name check = .ok a ↔ Has fields name (check · = .ok a) := by
  rw [required, Has]
  cases fields.find? name with
  | none => simp [under_eq_ok, issue_ne_ok]
  | some d => simp [under_eq_ok]

theorem optional_eq_ok :
    optional fields name check default = .ok a ↔
      Has fields name (check · = .ok a) ∨ fields.find? name = none ∧ a = default := by
  rw [optional, Has]
  cases fields.find? name with
  | none => simp [eq_comm]
  | some d => simp [under_eq_ok]

theorem exists_required :
    (∃ a, required fields name check = .ok a) ↔ Has fields name fun d => ∃ a, check d = .ok a := by
  simp only [required_eq_ok, Has]
  constructor
  · rintro ⟨a, d, found, ok⟩
    exact ⟨d, found, a, ok⟩
  · rintro ⟨d, found, a, ok⟩
    exact ⟨a, d, found, ok⟩

theorem exists_optional :
    (∃ a, optional fields name check default = .ok a) ↔
      MayHave fields name fun d => ∃ a, check d = .ok a := by
  rw [optional, MayHave]
  cases fields.find? name with
  | none => simp
  | some d => simp [under_eq_ok]

end

/-! ## Fields that are left out -/

/-- A field that writes a value, or no field if the value goes without saying. -/
inductive FieldFor (name : String) (writes : α → Data → Prop) (default : α) : α → Keyed Data → Prop
  | given {a : α} {d : Data} (written : writes a d) : FieldFor name writes default a [(name, d)]
  | leftOut : FieldFor name writes default default []

section FieldFor

variable {name : String} {writes : α → Data → Prop} {check : Data → Checked α} {default a : α}
  {field fields : Keyed Data}

theorem FieldFor.find?_of_ne {other : String} (h : FieldFor name writes default a field)
    (ne : other ≠ name) : field.find? other = none := by
  cases h with
  | given => simp [Keyed.find?, List.lookup_cons, beq_eq_false_iff_ne.2 ne]
  | leftOut => rfl

/-- **A field that is left out reads as it would if it were given.** -/
theorem FieldFor.optional_eq_ok (h : FieldFor name writes default a field)
    (reads : ∀ d, writes a d → check d = .ok a) (same : fields.find? name = field.find? name) :
    optional fields name check default = .ok a := by
  rw [Plain.optional_eq_ok, Has, same]
  cases h with
  | given written => exact Or.inl ⟨_, by simp [Keyed.find?], reads _ written⟩
  | leftOut => exact Or.inr ⟨rfl, rfl⟩

end FieldFor

/-! ## Texts and lists -/

def IsText (d : Data) : Prop :=
  ∃ s, d = .text s

theorem checkText_eq_ok {d : Data} {s : String} : checkText d = .ok s ↔ d = .text s := by
  cases d <;> simp [checkText, issue_ne_ok]

theorem checkList_eq_ok {check : Data → Checked α} {d : Data} {xs : List α} :
    checkList check d = .ok xs ↔
      ∃ ds, d = .list ds ∧ List.Forall₂ (fun d x => check d = .ok x) ds xs := by
  cases d <;> simp [checkList, issue_ne_ok, items_eq_ok]

theorem exists_checkText {d : Data} : (∃ s, checkText d = .ok s) ↔ IsText d := by
  simp only [checkText_eq_ok, IsText]

theorem exists_checkList {check : Data → Checked α} {d : Data} :
    (∃ xs, checkList check d = .ok xs) ↔
      ∃ ds, d = .list ds ∧ ∀ item ∈ ds, ∃ x, check item = .ok x := by
  simp only [checkList_eq_ok, ← exists_forall₂_iff]
  constructor
  · rintro ⟨xs, ds, list, items⟩
    exact ⟨ds, list, xs, items⟩
  · rintro ⟨ds, list, xs, items⟩
    exact ⟨xs, ds, list, items⟩

/-! ## Integers -/

/-- The integers that data denotes. -/
inductive Denotes : Data → Int → Prop
  | integer (n : Int) : Denotes (.integer n) n
  | logical (b : Bool) : Denotes (.logical b) b.toInt
  /-- A double without a fraction, within 64 bits. -/
  | real {x : Double} {n : Int} (value : x.toRat? = some (n : Rat)) (low : wordRange.1 < n)
      (high : n < wordRange.2) : Denotes (.real x) n
  /-- A text that is a written integer. -/
  | text {s : String} {n : Int} (written : readWritten s = .ok n) : Denotes (.text s) n

theorem integerOf_eq_ok {x : Double} {n : Int} :
    integerOf x = .ok n ↔ x.toRat? = some (n : Rat) ∧ wordRange.1 < n ∧ n < wordRange.2 := by
  rw [← Sheet.toInt?_eq_some_iff, integerOf]
  cases value : x.toRat? with
  | none =>
    have none : x.toInt? = none := by rw [Double.toInt?, value]
    simp [none]
  | some q =>
    cases x.toInt? with
    | none => simp
    | some m =>
      simp only [Option.some.injEq]
      split_ifs with inside
      · simp only [Except.ok.injEq]
        exact ⟨fun same => ⟨same, same ▸ inside⟩, fun h => h.1⟩
      · refine iff_of_false not_false ?_
        rintro ⟨rfl, bounds⟩
        exact inside bounds

/-- **Data is taken for the integer that it denotes.** -/
theorem checkInteger_eq_ok {d : Data} {n : Int} : checkInteger d = .ok n ↔ Denotes d n := by
  constructor
  · intro h
    cases d with
    | integer m =>
      obtain rfl := Except.ok.inj h
      exact .integer m
    | logical b =>
      obtain rfl := Except.ok.inj h
      exact .logical b
    | real x =>
      unfold checkInteger at h
      dsimp only at h
      split at h
      · next m whole =>
        obtain rfl := Except.ok.inj h
        obtain ⟨value, low, high⟩ := integerOf_eq_ok.1 whole
        exact .real value low high
      · cases h
    | text s =>
      unfold checkInteger at h
      dsimp only at h
      split at h
      · next m written =>
        obtain rfl := Except.ok.inj h
        exact .text written
      all_goals cases h
    | null => cases h
    | list items => cases h
    | object fields => cases h
  · intro h
    cases h with
    | integer => rfl
    | logical => rfl
    | real value low high =>
      unfold checkInteger
      dsimp only
      rw [integerOf_eq_ok.2 ⟨value, low, high⟩]
    | text written =>
      unfold checkInteger
      dsimp only
      rw [written]

/-! ## Failures -/

/-- A check that has issues to show if it fails. -/
def Explained (c : Checked α) : Prop :=
  c ≠ .error []

/-- A failure with a certain issue. -/
def Reports (c : Checked α) (i : Issue) : Prop :=
  ∃ issues, c = .error issues ∧ i ∈ issues

section

variable {c : Checked α} {b : Checked β} {i : Issue} {fields : Keyed Data} {name : String}
  {check : Data → Checked α} {default : α}

theorem explained_ok (a : α) : Explained (.ok a : Checked α) :=
  nofun

theorem explained_issue (cause : IssueCause) : Explained (issue cause : Checked α) :=
  nofun

/-- A failure that is handed on. -/
theorem explained_error {issues : List Issue} (failed : c = .error issues) (h : Explained c) :
    Explained (.error issues : Checked β) :=
  fun none => h (failed.trans (congrArg Except.error (Except.error.inj none)))

theorem explained_under {step : Step} (h : Explained c) : Explained (under step c) := by
  intro failed
  obtain ⟨issues, hc, none⟩ := mapError_eq_error.1 failed
  exact h (List.map_eq_nil_iff.1 none ▸ hc)

theorem explained_map {f : α → β} (h : Explained c) : Explained (c.map f) := by
  intro failed
  exact h (map_eq_error.1 failed)

theorem explained_both (hc : Explained c) (hb : Explained b) : Explained (both c b) := by
  cases c with
  | ok a =>
    cases b with
    | ok a' => exact nofun
    | error issues => exact fun failed => hb (congrArg Except.error (Except.error.inj failed))
  | error issues =>
    cases b with
    | ok a' => exact fun failed => hc (congrArg Except.error (Except.error.inj failed))
    | error issues' =>
      intro failed
      have none := List.append_eq_nil_iff.1 (Except.error.inj failed)
      exact hc (congrArg Except.error none.1)

theorem explained_all {cs : List (Checked α)} (h : ∀ c ∈ cs, Explained c) : Explained (all cs) := by
  induction cs with
  | nil => exact explained_ok []
  | cons c rest ih =>
    obtain ⟨first, others⟩ := List.forall_mem_cons.1 h
    exact explained_map (explained_both first (ih others))

theorem explained_items (h : ∀ d, Explained (check d)) (ds : List Data) :
    Explained (items check ds) := by
  refine explained_all fun c hc => ?_
  obtain ⟨i, hi, rfl⟩ := List.mem_mapIdx.1 hc
  exact explained_under (h ds[i])

theorem explained_required (h : ∀ d, Explained (check d)) :
    Explained (required fields name check) := by
  rw [required]
  split
  · exact explained_under (h _)
  · exact explained_under (explained_issue _)

theorem explained_optional (h : ∀ d, Explained (check d)) :
    Explained (optional fields name check default) := by
  rw [optional]
  split
  · exact explained_under (h _)
  · exact explained_ok default

theorem explained_checkText (d : Data) : Explained (checkText d) := by
  cases d <;> exact nofun

theorem explained_checkInteger (d : Data) : Explained (checkInteger d) := by
  unfold checkInteger
  cases d with
  | real x =>
    dsimp only
    split <;> exact nofun
  | text s =>
    dsimp only
    split <;> exact nofun
  | _ => exact nofun

theorem explained_checkList (h : ∀ d, Explained (check d)) (d : Data) :
    Explained (checkList check d) := by
  cases d with
  | list ds => exact explained_items h ds
  | _ => exact explained_issue _

theorem reports_both_right (c : Checked α) (h : Reports b i) : Reports (both c b) i := by
  obtain ⟨issues, rfl, member⟩ := h
  cases c with
  | ok a => exact ⟨issues, rfl, member⟩
  | error others => exact ⟨others ++ issues, rfl, List.mem_append_right others member⟩

theorem reports_map {f : α → β} (h : Reports c i) : Reports (c.map f) i := by
  obtain ⟨issues, rfl, member⟩ := h
  exact ⟨issues, rfl, member⟩

end

end SlideMerge.Plain
