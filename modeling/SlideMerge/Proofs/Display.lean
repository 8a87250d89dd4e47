import SlideMerge.Proofs.NumberCode
import SlideMerge.Workbook.Upload

/-!
# Which cells have no display text

A value that is no number has a display text with every format. A number has one unless its
arithmetic leaves the doubles (`Overflows`), and such a cell makes a whole worksheet unreadable.

* **Rendering** fails for no other value, and with no other fault than those of too large numbers
  (`render_eq_error`).
* **Loading** fails with a fault of the workbook, unless a cell of the first worksheet overflows
  (`loadFirstSheet_eq_error`).

Main result: `display_outcome`.
-/

namespace SlideMerge.Sheet

open Numeric Format

/-! ## Rendering -/

/-- A number whose arithmetic may leave the doubles: an integer whose hundredfold is too large, or a
double with a code that has enough commas to divide it by more than `1000^102`. -/
def Overflows (code : List Char) : Value → Prop
  | .integer n => Double.overflowLimit ≤ 100 * n.natAbs
  | .real _ => 103 ≤ code.count ','
  | _ => False

theorem renderNumber_eq_error {value : Number} {code : List Char} {fault : NumberFault}
    (h : renderNumber value code = .error fault) :
    fault ≠ .noExponent ∧ value.Overflows (code.count ',') := by
  have general (hg : generalText value = .error fault) :
      fault ≠ .noExponent ∧ value.Overflows (code.count ',') := by
    obtain ⟨rfl, large⟩ := generalText_eq_error hg
    exact ⟨by decide, Or.inl (by omega)⟩
  rw [renderNumber] at h
  split_ifs at h with special
  · exact general h
  · cases hf : formatNumber value code with
    | ok text =>
      rw [hf] at h
      cases h
    | error fault' =>
      rw [hf] at h
      by_cases caught : fault' = .noExponent
      · subst caught
        exact general h
      · have same : fault' = fault := by cases fault' <;> simp_all
        subst same
        exact ⟨caught, (formatNumber_eq_error hf).resolve_left caught⟩

/-- **A value without a display text overflows.** -/
theorem render_eq_error {value : Value} {format : Option String} {fault : NumberFault}
    (h : render value format = .error fault) :
    fault ≠ .noExponent ∧ Overflows (displayCode format).toList value := by
  have hr : renderWithCode value (displayCode format).toList = .error fault := map_eq_error.1 h
  cases value with
  | integer n =>
    obtain ⟨uncaught, large | ⟨hreal, -⟩⟩ := renderNumber_eq_error hr
    · exact ⟨uncaught, large⟩
    · cases hreal
  | real x =>
    obtain ⟨uncaught, large | ⟨-, commas⟩⟩ := renderNumber_eq_error hr
    · exact absurd large (not_le.2 Double.overflowLimit_pos)
    · exact ⟨uncaught, commas⟩
  | text | logical | dateTime | date | time | duration | other => cases hr

/-- **The bound for integers is sharp:** each integer that overflows has no display text as a
percentage. -/
theorem render_percent_eq_error {n : Int} (h : Double.overflowLimit ≤ 100 * n.natAbs) :
    render (.integer n) (some "0%") = .error .integerTooLarge := by
  have tooLarge : (Number.integer (100 * n)).magnitude = .error .integerTooLarge := by
    refine magnitude_integer_eq_error ?_
    rw [Int.natAbs_mul]
    exact h
  have fixed (negative : Bool) :
      formatFixed ⟨false, 0, 0⟩ [] ['%'] negative (.integer n) = .error .integerTooLarge := by
    rw [formatFixed]
    change (Number.integer (100 * n)).magnitude >>= _ = _
    rw [tooLarge]
    rfl
  have only : numberSection ['0', '%'] (.integer n) =
      (['0', '%'], .integer n, (Number.integer n).isNegative) := by
    simp [numberSection, sections, splitFrom, consFirst, Text.isBlankText]
  have formatted : formatNumber (.integer n) ['0', '%'] = .error .integerTooLarge := by
    rw [formatNumber, only]
    exact fixed _
  have code : (displayCode (some "0%")).toList = ['0', '%'] := by decide
  rw [render, code, renderWithCode, renderNumber, if_neg (by decide), formatted]
  rfl

end SlideMerge.Sheet

namespace SlideMerge.Workbook

open Numeric Format Sheet

/-! ## Loading -/

/-- A cell that is read with a value whose arithmetic may leave the doubles. -/
def ReadCell.Overflows (c : ReadCell) : Prop :=
  ∃ value, c.value = some value ∧ Sheet.Overflows (displayCode (some c.format)).toList value

/-- Whether a failure to load a worksheet is reported as one of the workbook. -/
def LoadFault.isWorkbookFault : LoadFault → Bool
  | notAWorkbook _ | unreadable _ _ | noWorksheets _ => true
  | display _ => false

/-- The cells of the first worksheet, as they are read. -/
def firstCells (format : FileFormat) (stored : StoredWorkbook) : List ReadCell :=
  match stored.sheets, format with
  | [], _ => []
  | sheet :: _, .current => (sheet.readCurrent? stored.system).getD []
  | sheet :: _, .legacy => sheet.readLegacy stored.system

theorem toCell_eq_error {c : ReadCell} {value : Value} {fault : NumberFault}
    (h : c.toCell value = .error fault) : render value (some c.format) = .error fault := by
  rcases bind_eq_error.1 h with hr | ⟨text, -, h⟩
  · exact hr
  · cases h

theorem mem_of_mem_inReadingOrder {cells : List ReadCell} {entry : String × ReadCell}
    (h : entry ∈ inReadingOrder cells) : entry.2 ∈ cells := by
  obtain ⟨pair, hp, he⟩ := Keyed.exists_of_mem_ofPairs h
  obtain ⟨c, hc, rfl⟩ := List.mem_map.1 hp
  rw [he]
  exact List.mem_mergeSort.1 hc

/-- **A worksheet without a snapshot has a cell that overflows.** -/
theorem snapshotOf_eq_error {title : String} {system : DateSystem} {cells : List ReadCell}
    {fault : NumberFault} (h : snapshotOf title system cells = .error fault) :
    ∃ c ∈ cells, c.Overflows := by
  rcases bind_eq_error.1 h with hm | ⟨shown, -, h⟩
  · obtain ⟨⟨c, value⟩, hc, hcell⟩ := exists_of_mapM_eq_error hm
    obtain ⟨entry, he, hv⟩ := List.mem_filterMap.1 hc
    obtain ⟨value', hvalue, hpair⟩ := Option.map_eq_some_iff.1 hv
    obtain ⟨rfl, rfl⟩ := Prod.mk.inj hpair
    have overflows := (render_eq_error (toCell_eq_error hcell)).2
    exact ⟨entry.2, mem_of_mem_inReadingOrder he, value', hvalue, overflows⟩
  · cases h

theorem firstSnapshot_eq_error {label : String} {system : DateSystem}
    {sheets : List (String × List ReadCell)} {fault : LoadFault}
    (h : firstSnapshot label system sheets = .error fault) :
    fault.isWorkbookFault ∨ ∃ sheet ∈ sheets.head?, ∃ c ∈ sheet.2, c.Overflows := by
  cases sheets with
  | nil =>
    obtain rfl := Except.error.inj h
    exact Or.inl rfl
  | cons sheet rest =>
    obtain ⟨cause, hs, rfl⟩ := mapError_eq_error.1 h
    exact Or.inr ⟨sheet, rfl, snapshotOf_eq_error hs⟩

theorem loadStored_eq_error {label : String} {format : FileFormat} {stored : StoredWorkbook}
    {fault : LoadFault} (h : loadStored label format stored = .error fault) :
    fault.isWorkbookFault ∨ ∃ c ∈ firstCells format stored, c.Overflows := by
  obtain ⟨system, sheets⟩ := stored
  cases format with
  | current =>
    rw [loadStored] at h
    dsimp only at h
    split at h
    · next read hread =>
      refine (firstSnapshot_eq_error h).imp_right ?_
      rintro ⟨sheet, hs, overflows⟩
      rw [head?_of_mapM_eq_some hread] at hs
      cases sheets with
      | nil => cases hs
      | cons first rest =>
        obtain ⟨cells, hcells, rfl⟩ := Option.map_eq_some_iff.1 hs
        show ∃ c ∈ (first.readCurrent? system).getD [], c.Overflows
        rwa [hcells]
    · obtain rfl := Except.error.inj h
      exact Or.inl rfl
  | legacy =>
    refine (firstSnapshot_eq_error h).imp_right ?_
    rintro ⟨sheet, hs, overflows⟩
    cases sheets with
    | nil => cases hs
    | cons first rest =>
      obtain rfl := Option.some.inj hs
      exact overflows

theorem loadPackage_eq_error {label : String} {package : Except Archive.OpenFault Archive}
    {fault : LoadFault} (h : loadPackage label package = .error fault) : fault.isWorkbookFault := by
  rw [loadPackage] at h
  split at h <;> obtain rfl := Except.error.inj h <;> rfl

/-- **A workbook that cannot be loaded is at fault itself, or a cell of its first worksheet
overflows.** -/
theorem loadFirstSheet_eq_error {upload : Upload} {filename : Option String} {fault : LoadFault}
    (h : loadFirstSheet upload filename = .error fault) :
    fault.isWorkbookFault ∨ ∃ format stored image, upload = .workbook format stored image ∧
      ∃ c ∈ firstCells format stored, c.Overflows := by
  cases upload with
  | workbook format stored image =>
    exact (loadStored_eq_error h).imp_right fun hc => ⟨format, stored, image, rfl, hc⟩
  | archive package =>
    left
    rw [loadFirstSheet] at h
    split_ifs at h
    · obtain rfl := Except.error.inj h
      rfl
    · exact loadPackage_eq_error h
  | bytes content =>
    left
    rw [loadFirstSheet] at h
    split_ifs at h
    · exact loadPackage_eq_error h
    · obtain rfl := Except.error.inj h
      rfl
    · obtain rfl := Except.error.inj h
      rfl

/-- **Nothing but the numbers that overflow stops a display text or a worksheet.** -/
theorem display_outcome (value : Value) (format : Option String) (upload : Upload)
    (filename : Option String) :
    ((∃ text, render value format = .ok text) ∨
      ∃ fault, render value format = .error fault ∧ fault ≠ .noExponent ∧
        Sheet.Overflows (displayCode format).toList value) ∧
    ((∃ snapshot, loadFirstSheet upload filename = .ok snapshot) ∨
      ∃ fault, loadFirstSheet upload filename = .error fault ∧
        (fault.isWorkbookFault ∨ ∃ format stored image, upload = .workbook format stored image ∧
          ∃ c ∈ firstCells format stored, c.Overflows)) := by
  constructor
  · refine (exists_ok_or_error (render value format)).imp_right ?_
    rintro ⟨fault, h⟩
    exact ⟨fault, h, render_eq_error h⟩
  · refine (exists_ok_or_error (loadFirstSheet upload filename)).imp_right ?_
    rintro ⟨fault, h⟩
    exact ⟨fault, h, loadFirstSheet_eq_error h⟩

theorem snapshotOf_singleton {title : String} {system : DateSystem} {c : ReadCell} {value : Value}
    {fault : NumberFault} (hv : c.value = some value)
    (hr : render value (some c.format) = .error fault) :
    snapshotOf title system [c] = .error fault := by
  have order : inReadingOrder [c] = [(c.place.name, c)] := by
    rw [inReadingOrder, List.mergeSort_singleton]
    rfl
  have cell : c.toCell value = .error fault := by
    rw [ReadCell.toCell, hr]
    rfl
  rw [snapshotOf, order]
  simp only [List.filterMap_cons, List.filterMap_nil, hv, Option.map_some, List.mapM_cons, cell]
  rfl

/-- A worksheet with the double `2^1023`, shown as a percentage, in its first cell. -/
def largeSheet : StoredSheet where
  title := "Sheet1"
  cells :=
    [{ place := ⟨0, 1, by decide, Nat.one_pos⟩
       kind := .number
       content := some "8.9884656743115795e307"
       format := "0%" }]

/-- **An integer can stop a display text, and with it a worksheet.** -/
theorem exists_not_isWorkbookFault :
    render (.integer (2 ^ 1023)) (some "0%") = .error .integerTooLarge ∧
      ∀ image, ∃ fault,
        loadFirstSheet (.workbook .legacy ⟨.from1900, [largeSheet]⟩ image) none = .error fault ∧
          ¬ fault.isWorkbookFault := by
  have unshown : render (.integer (2 ^ 1023)) (some "0%") = .error .integerTooLarge :=
    render_percent_eq_error (by decide +kernel)
  have read : largeSheet.readLegacy .from1900 =
      [⟨⟨0, 1, by decide, Nat.one_pos⟩, some (.integer (2 ^ 1023)), "0%"⟩] := by decide +kernel
  have sheet : snapshotOf "Sheet1" .from1900
      [⟨⟨0, 1, by decide, Nat.one_pos⟩, some (.integer (2 ^ 1023)), "0%"⟩] =
        .error .integerTooLarge := snapshotOf_singleton rfl unshown
  refine ⟨unshown, fun image => ⟨.display .integerTooLarge, ?_, by decide⟩⟩
  rw [loadFirstSheet, loadStored, List.map_singleton, read, firstSnapshot]
  exact mapError_eq_error.2 ⟨_, sheet, rfl⟩

end SlideMerge.Workbook
