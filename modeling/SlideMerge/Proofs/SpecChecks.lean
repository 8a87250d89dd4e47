import SlideMerge.Placeholder.SpecData
import SlideMerge.Proofs.Checking

/-!
# Which data is a specification

Data is a specification if its tag names a kind and it has the fields of that kind (`IsSpec`),
whatever other fields it has. The tag alone settles the kind: the fields are not looked at to find
it (`Spec.check_eq_ok`), and the specification that comes out is of the kind that the tag names
(`Spec.kind_of_checkFields`).
-/

namespace SlideMerge.Placeholder

open Plain Checked

/-- Texts in a list. -/
def IsTexts (d : Data) : Prop :=
  ∃ items, d = .list items ∧ ∀ item ∈ items, IsText item

/-- The name of a form of month and year. -/
def IsFormName (d : Data) : Prop :=
  d = .text "Mon YYYY" ∨ d = .text "MMMM YYYY" ∨ d = .text "MM/YYYY"

/-- The fields of a specification by its kind. -/
def HasFieldsOf (fields : Keyed Data) : SpecKind → Prop
  | .cell => Has fields "ref" IsText
  | .const => Has fields "value" IsText
  | .join => Has fields "refs" IsTexts ∧ MayHave fields "join_with" IsText
  | .monthYear => Has fields "ref" IsText ∧ MayHave fields "format" IsFormName

/-- A tag that names a kind, and the fields of this kind. -/
def IsSpec (d : Data) : Prop :=
  ∃ fields kind, d = .object fields ∧ Has fields "type" (· = .text kind.tag) ∧
    HasFieldsOf fields kind

namespace SpecKind

theorem ofTag?_tag (kind : SpecKind) : ofTag? kind.tag = some kind := by
  cases kind <;> decide

theorem tag_of_ofTag? {s : String} {kind : SpecKind} (h : ofTag? s = some kind) : kind.tag = s :=
  of_decide_eq_true (List.find?_some (p := fun k => decide (tag k = s)) h)

end SpecKind

theorem MonthYearFormat.name_of_ofName? {s : String} {form : MonthYearFormat}
    (h : ofName? s = some form) : form.name = s :=
  of_decide_eq_true (List.find?_some (p := fun f => decide (name f = s)) h)

theorem exists_checkMonthYearFormat {d : Data} :
    (∃ form, checkMonthYearFormat d = .ok form) ↔ IsFormName d := by
  constructor
  · rintro ⟨form, ok⟩
    cases d with
    | text s =>
      rw [checkMonthYearFormat] at ok
      split at ok
      · next f named =>
        obtain rfl := MonthYearFormat.name_of_ofName? named
        cases f with
        | short => exact Or.inl rfl
        | long => exact Or.inr (Or.inl rfl)
        | numeric => exact Or.inr (Or.inr rfl)
      · cases ok
    | _ => cases ok
  · rintro (rfl | rfl | rfl)
    · exact ⟨.short, rfl⟩
    · exact ⟨.long, rfl⟩
    · exact ⟨.numeric, rfl⟩

namespace Spec

/-- **A specification is checked as one of the kind that its tag names.** -/
theorem check_eq_ok {d : Data} {spec : Spec} :
    check d = .ok spec ↔
      ∃ fields kind, d = .object fields ∧ Has fields "type" (· = .text kind.tag) ∧
        checkFields fields kind = .ok spec := by
  constructor
  · intro h
    cases d with
    | object fields =>
      rw [check] at h
      split at h
      · cases h
      · next tag found =>
        dsimp only at h
        split at h
        · next s =>
          split at h
          · next kind named =>
            obtain rfl := SpecKind.tag_of_ofTag? named
            exact ⟨fields, kind, rfl, ⟨_, found, rfl⟩, under_eq_ok.1 h⟩
          · cases h
        · cases h
    | _ => cases h
  · rintro ⟨fields, kind, rfl, ⟨_, found, rfl⟩, ok⟩
    rw [check, found]
    dsimp only
    rw [SpecKind.ofTag?_tag]
    exact under_eq_ok.2 ok

theorem exists_checkFields {fields : Keyed Data} {kind : SpecKind} :
    (∃ spec, checkFields fields kind = .ok spec) ↔ HasFieldsOf fields kind := by
  cases kind with
  | cell =>
    rw [checkFields, exists_map, exists_required]
    simp only [exists_checkText, HasFieldsOf]
  | const =>
    rw [checkFields, exists_map, exists_required]
    simp only [exists_checkText, HasFieldsOf]
  | join =>
    rw [checkFields, exists_map, exists_both, exists_required, exists_optional]
    simp only [exists_checkList, exists_checkText, HasFieldsOf]
    rfl
  | monthYear =>
    rw [checkFields, exists_map, exists_both, exists_required, exists_optional]
    simp only [exists_checkText, exists_checkMonthYearFormat, HasFieldsOf]

theorem kind_of_checkFields {fields : Keyed Data} {kind : SpecKind} {spec : Spec}
    (h : checkFields fields kind = .ok spec) : spec.kind = kind := by
  cases kind with
  | cell | const =>
    obtain ⟨s, -, rfl⟩ := Checked.map_eq_ok.1 h
    rfl
  | join | monthYear =>
    obtain ⟨parts, -, rfl⟩ := Checked.map_eq_ok.1 h
    rfl

/-- **Data is accepted as a specification if it has the shape of one.** -/
theorem exists_check {d : Data} : (∃ spec, check d = .ok spec) ↔ IsSpec d := by
  simp only [check_eq_ok, IsSpec, ← exists_checkFields]
  constructor
  · rintro ⟨spec, fields, kind, object, tag, ok⟩
    exact ⟨fields, kind, object, tag, spec, ok⟩
  · rintro ⟨fields, kind, object, tag, spec, ok⟩
    exact ⟨spec, fields, kind, object, tag, ok⟩

/-- Data with the tag of a kind. -/
def Tagged (d : Data) (kind : SpecKind) : Prop :=
  ∃ fields, d = .object fields ∧ Has fields "type" (· = .text kind.tag)

/-- **A specification is of the kind that the tag of its data names.** -/
theorem tagged_iff_of_check {d : Data} {spec : Spec} (h : check d = .ok spec) (kind : SpecKind) :
    Tagged d kind ↔ spec.kind = kind := by
  obtain ⟨fields, named, rfl, ⟨tag, found, rfl⟩, ok⟩ := check_eq_ok.1 h
  obtain rfl := kind_of_checkFields ok
  constructor
  · rintro ⟨_, ⟨⟩, tag, found', rfl⟩
    have same : spec.kind.tag = kind.tag :=
      Data.text.inj (Option.some.inj (found.symm.trans found'))
    have read := SpecKind.ofTag?_tag spec.kind
    rw [same, SpecKind.ofTag?_tag] at read
    exact (Option.some.inj read).symm
  · rintro rfl
    exact ⟨fields, rfl, _, found, rfl⟩

theorem explained_checkFields (fields : Keyed Data) (kind : SpecKind) :
    Explained (checkFields fields kind) := by
  have form (d : Data) : Explained (checkMonthYearFormat d) := by
    unfold checkMonthYearFormat
    split
    · split
      · exact explained_ok _
      · exact explained_issue _
    · exact explained_issue _
  cases kind with
  | cell => exact explained_map (explained_required explained_checkText)
  | const => exact explained_map (explained_required explained_checkText)
  | join =>
    exact explained_map
      (explained_both (explained_required (explained_checkList explained_checkText))
      (explained_optional explained_checkText))
  | monthYear =>
    exact explained_map (explained_both (explained_required explained_checkText)
      (explained_optional form))

theorem explained_check (d : Data) : Explained (check d) := by
  unfold check
  split
  · split
    · exact explained_issue _
    · dsimp only
      split
      · split
        · exact explained_under (explained_checkFields _ _)
        · exact explained_issue _
      · exact explained_issue _
  · exact explained_issue _

end Spec

end SlideMerge.Placeholder
