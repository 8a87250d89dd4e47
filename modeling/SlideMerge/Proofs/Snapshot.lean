import Mathlib.Data.List.Sort
import SlideMerge.Proofs.Display
import SlideMerge.Proofs.Keyed
import SlideMerge.Proofs.Reference

/-!
# The snapshot of the first worksheet

A worksheet may hold several cells at one place, in any order, and the last of them is the cell at
the place (`cellAt`). Sorting the cells into reading order does not change which one that is, for it
keeps the order of cells at one place (`cellsAt_mergeSort`).

* **Entries.** A snapshot has an entry for each place whose cell has a value, and no other
  (`mem_cells_iff`), and each entry stands under the name of its place (`IsEntry`).
* **Look-up.** Since a spelling is read as the place that it denotes, and different places have
  different names, looking a spelling up finds the cell at this place (`get_of_spelling`).
* **Other worksheets** are not looked at (`loadStored_eq_ok`).

Main result: `loadFirstSheet_entries`.
-/

namespace SlideMerge.Workbook

open Text Numeric Format Sheet

/-! ## Reading order -/

theorem isBefore_iff {a b : ReadCell} : a.isBefore b ↔
    a.place.row < b.place.row ∨ (a.place.row = b.place.row ∧ a.place.column ≤ b.place.column) := by
  simp [ReadCell.isBefore]

theorem isBefore_trans (a b c : ReadCell) (hab : a.isBefore b) (hbc : b.isBefore c) :
    a.isBefore c := by
  rw [isBefore_iff] at *
  omega

theorem isBefore_total (a b : ReadCell) : a.isBefore b || b.isBefore a := by
  rw [Bool.or_eq_true, isBefore_iff, isBefore_iff]
  omega

theorem isBefore_of_place_eq {a b : ReadCell} (h : a.place = b.place) : a.isBefore b := by
  rw [isBefore_iff, h]
  exact Or.inr ⟨rfl, Nat.le_refl _⟩

/-- The cells at a place, in the order in which they have been read. -/
def cellsAt (cells : List ReadCell) (place : Reference) : List ReadCell :=
  cells.filter (·.place = place)

/-- The cell at a place: of several the last one that has been read. -/
def cellAt (cells : List ReadCell) (place : Reference) : Option ReadCell :=
  (cellsAt cells place).getLast?

/-- **Sorting keeps the cells at one place in their order.** -/
theorem cellsAt_mergeSort (cells : List ReadCell) (place : Reference) :
    cellsAt (cells.mergeSort ReadCell.isBefore) place = cellsAt cells place := by
  have samePlace : ∀ c ∈ cellsAt cells place, c.place = place := fun c hc => by
    simpa using (List.mem_filter.1 hc).2
  have sorted : (cellsAt cells place).Pairwise fun a b => ReadCell.isBefore a b := by
    refine List.pairwise_of_forall_mem_list fun a ha b hb => ?_
    exact isBefore_of_place_eq ((samePlace a ha).trans (samePlace b hb).symm)
  have sublist : (cellsAt cells place).Sublist (cells.mergeSort ReadCell.isBefore) :=
    List.sublist_mergeSort isBefore_trans isBefore_total sorted List.filter_sublist
  have kept : (cellsAt cells place).Sublist
      (cellsAt (cells.mergeSort ReadCell.isBefore) place) := by
    have filtered := sublist.filter fun c => decide (c.place = place)
    simpa only [cellsAt, List.filter_filter, Bool.and_self] using filtered
  have counted : (cellsAt (cells.mergeSort ReadCell.isBefore) place).Perm (cellsAt cells place) :=
    (List.mergeSort_perm cells ReadCell.isBefore).filter _
  exact (kept.eq_of_length counted.length_eq.symm).symm

/-- **Under the name of a place stands the cell at the place.** -/
theorem find?_inReadingOrder (cells : List ReadCell) (place : Reference) :
    (inReadingOrder cells).find? place.name = cellAt cells place := by
  have byName : (fun c : ReadCell => decide (c.place.name = place.name)) =
      fun c => decide (c.place = place) := by
    funext c
    exact decide_eq_decide.2 Reference.name_injective.eq_iff
  rw [inReadingOrder, Keyed.find?_ofPairs, List.filter_map, List.getLast?_map, Option.map_map]
  change ((cells.mergeSort ReadCell.isBefore).filter fun c =>
    decide (c.place.name = place.name)).getLast?.map id = _
  rw [byName, Option.map_id_apply, cellAt, ← cellsAt_mergeSort]
  rfl

theorem place_of_cellAt {cells : List ReadCell} {place : Reference} {c : ReadCell}
    (h : cellAt cells place = some c) : c.place = place := by
  have member := List.mem_filter.1 (List.mem_of_getLast? h)
  simpa using member.2

/-- **The entries in reading order are the cells at their places, under the names of these.** -/
theorem mem_inReadingOrder_iff {cells : List ReadCell} {key : String} {c : ReadCell} :
    (key, c) ∈ inReadingOrder cells ↔ key = c.place.name ∧ cellAt cells c.place = some c := by
  have nodup : (inReadingOrder cells).keys.Nodup := Keyed.nodup_keys_ofPairs _
  rw [← Keyed.find?_eq_some_iff nodup]
  constructor
  · intro found
    have pair := found
    rw [inReadingOrder, Keyed.find?_ofPairs] at pair
    obtain ⟨⟨key', c'⟩, last, rfl⟩ := Option.map_eq_some_iff.1 pair
    obtain ⟨member, same⟩ := List.mem_filter.1 (List.mem_of_getLast? last)
    obtain ⟨c', -, hc⟩ := List.mem_map.1 member
    obtain ⟨rfl, rfl⟩ := Prod.mk.inj hc
    obtain rfl : c'.place.name = key := by simpa using same
    exact ⟨rfl, (find?_inReadingOrder cells c'.place).symm.trans found⟩
  · rintro ⟨rfl, hc⟩
    exact (find?_inReadingOrder cells c.place).trans hc

/-! ## Entries -/

/-- What holds of the entry of a snapshot. Its key is the canonical name of its place, the place is
one that a reference can name, and the cell has a value and the text that is shown for it. -/
structure IsEntry (key : String) (cell : Cell) : Prop where
  name_eq : cell.name = key
  key_eq : key = String.ofList (cellName cell.row cell.column)
  normalize : Reference.normalize key = .ok key
  row_pos : 1 ≤ cell.row
  column_lt : cell.column < columnLimit
  shown : ∃ value text, cell.value = some value ∧ cell.shown = some text ∧
    render value (some cell.format) = .ok text

theorem render_codeOrGeneral (value : Value) (code : String) :
    render value (some (codeOrGeneral code)) = render value (some code) := by
  by_cases empty : code = ""
  · rw [empty]
    rfl
  · rw [codeOrGeneral, if_neg empty]

theorem toCell_eq_ok {c : ReadCell} {value : Value} {cell : Cell} (h : c.toCell value = .ok cell) :
    ∃ text, render value (some c.format) = .ok text ∧
      cell = ⟨c.place.name, c.place.row, c.place.column, some value, some text,
        codeOrGeneral c.format⟩ := by
  obtain ⟨text, hr, h⟩ := bind_eq_ok.1 h
  exact ⟨text, hr, (Except.ok.inj h).symm⟩

theorem name_of_toCell {c : ReadCell} {value : Value} {cell : Cell}
    (h : c.toCell value = .ok cell) : cell.name = c.place.name := by
  obtain ⟨text, -, rfl⟩ := toCell_eq_ok h
  rfl

theorem names_of_shown {present : List (ReadCell × Value)} {shown : List Cell}
    (h : List.Forall₂ (fun (c : ReadCell × Value) cell => c.1.toCell c.2 = .ok cell) present
      shown) :
    shown.map (·.name) = present.map (·.1.place.name) := by
  induction h with
  | nil => rfl
  | cons hc _ ih => rw [List.map_cons, List.map_cons, ih, name_of_toCell hc]

theorem isEntry_of_toCell {c : ReadCell} {value : Value} {cell : Cell} (hw : c.place.Writable)
    (h : c.toCell value = .ok cell) : IsEntry c.place.name cell := by
  obtain ⟨text, hr, rfl⟩ := toCell_eq_ok h
  refine ⟨rfl, rfl, ?_, c.place.row_pos, c.place.column_lt, value, text, rfl, rfl, ?_⟩
  · rw [Reference.normalize, Reference.read_name hw]
    rfl
  · rw [render_codeOrGeneral, hr]

def ReadCell.withValue (c : ReadCell) : Option (ReadCell × Value) :=
  c.value.map (c, ·)

theorem withValue_eq_some_iff {c c' : ReadCell} {value : Value} :
    c'.withValue = some (c, value) ↔ c' = c ∧ c.value = some value := by
  rw [ReadCell.withValue, Option.map_eq_some_iff]
  constructor
  · rintro ⟨value', hv, pair⟩
    obtain ⟨rfl, rfl⟩ := Prod.mk.inj pair
    exact ⟨rfl, hv⟩
  · rintro ⟨rfl, hv⟩
    exact ⟨value, hv, rfl⟩

/-- The cells with a value, in reading order, with their values. -/
def presentCells (cells : List ReadCell) : List (ReadCell × Value) :=
  (inReadingOrder cells).filterMap fun e => e.2.withValue

theorem mem_presentCells_iff {cells : List ReadCell} {c : ReadCell} {value : Value} :
    (c, value) ∈ presentCells cells ↔ cellAt cells c.place = some c ∧ c.value = some value := by
  rw [presentCells, List.mem_filterMap]
  constructor
  · rintro ⟨⟨key, c'⟩, member, kept⟩
    obtain ⟨rfl, hv⟩ := withValue_eq_some_iff.1 kept
    exact ⟨(mem_inReadingOrder_iff.1 member).2, hv⟩
  · rintro ⟨hc, hv⟩
    exact ⟨(c.place.name, c), mem_inReadingOrder_iff.2 ⟨rfl, hc⟩,
      withValue_eq_some_iff.2 ⟨rfl, hv⟩⟩

theorem names_presentCells (cells : List ReadCell) :
    ((presentCells cells).map (·.1.place.name)).Sublist (inReadingOrder cells).keys := by
  have named : ∀ e ∈ inReadingOrder cells, e.1 = e.2.place.name :=
    fun e he => (mem_inReadingOrder_iff.1 (show (e.1, e.2) ∈ _ from he)).1
  rw [presentCells, Keyed.keys]
  generalize inReadingOrder cells = entries at named
  induction entries with
  | nil => exact List.Sublist.slnil
  | cons e rest ih =>
    have tail := ih fun e he => named e (List.mem_cons_of_mem _ he)
    cases hv : e.2.withValue with
    | none =>
      simp only [List.filterMap_cons, hv]
      exact tail.cons _
    | some present =>
      have first : e.1 = present.1.place.name := by
        rw [named e List.mem_cons_self, (withValue_eq_some_iff.1 hv).1]
      simp only [List.filterMap_cons, hv, List.map_cons, first]
      exact tail.cons_cons _

section Snapshot

variable {title : String} {system : DateSystem} {cells : List ReadCell} {snapshot : Snapshot}

/-- **A snapshot shows the cells with a value, one after another.** -/
theorem snapshotOf_eq_ok : snapshotOf title system cells = .ok snapshot ↔
    ∃ shown, List.Forall₂ (fun (c : ReadCell × Value) cell => c.1.toCell c.2 = .ok cell)
        (presentCells cells) shown ∧
      snapshot = ⟨title, shown.map fun c => (c.name, c), system⟩ := by
  rw [snapshotOf, bind_eq_ok]
  refine exists_congr fun shown => and_congr mapM_eq_ok ?_
  exact ⟨fun h => (Except.ok.inj h).symm, fun h => h ▸ rfl⟩

/-- **A snapshot has an entry for each place whose cell has a value, and no other.** -/
theorem mem_cells_iff (h : snapshotOf title system cells = .ok snapshot) {key : String}
    {cell : Cell} : (key, cell) ∈ snapshot.cells ↔
      ∃ c value, cellAt cells c.place = some c ∧ c.value = some value ∧
        c.toCell value = .ok cell ∧ key = c.place.name := by
  obtain ⟨shown, hs, rfl⟩ := snapshotOf_eq_ok.1 h
  rw [List.mem_map]
  constructor
  · rintro ⟨cell', member, pair⟩
    obtain ⟨rfl, rfl⟩ := Prod.mk.inj pair
    obtain ⟨⟨c, value⟩, present, hc⟩ := exists_of_mem_right hs cell' member
    obtain ⟨at_place, hv⟩ := mem_presentCells_iff.1 present
    exact ⟨c, value, at_place, hv, hc, name_of_toCell hc⟩
  · rintro ⟨c, value, at_place, hv, hc, rfl⟩
    obtain ⟨cell', member, hc'⟩ :=
      exists_of_mem_left hs (c, value) (mem_presentCells_iff.2 ⟨at_place, hv⟩)
    obtain rfl := Except.ok.inj (hc.symm.trans hc')
    exact ⟨cell, member, by rw [name_of_toCell hc]⟩

theorem keys_cells (h : snapshotOf title system cells = .ok snapshot) :
    snapshot.cells.keys = (presentCells cells).map (·.1.place.name) := by
  obtain ⟨shown, hs, rfl⟩ := snapshotOf_eq_ok.1 h
  rw [← names_of_shown hs, Keyed.keys, List.map_map]
  rfl

theorem nodup_keys_cells (h : snapshotOf title system cells = .ok snapshot) :
    snapshot.cells.keys.Nodup := by
  rw [keys_cells h]
  exact (Keyed.nodup_keys_ofPairs _).sublist (names_presentCells cells)

/-! ## Look-up -/

/-- The cell at a place with its value, if the worksheet holds a value there. -/
def heldAt (cells : List ReadCell) (place : Reference) : Option (ReadCell × Value) :=
  (cellAt cells place).bind ReadCell.withValue

theorem heldAt_eq_some_iff {place : Reference} {c : ReadCell} {value : Value} :
    heldAt cells place = some (c, value) ↔
      c.place = place ∧ cellAt cells c.place = some c ∧ c.value = some value := by
  rw [heldAt, Option.bind_eq_some_iff]
  constructor
  · rintro ⟨c', hc, kept⟩
    obtain ⟨rfl, hv⟩ := withValue_eq_some_iff.1 kept
    obtain rfl := place_of_cellAt hc
    exact ⟨rfl, hc, hv⟩
  · rintro ⟨rfl, hc, hv⟩
    exact ⟨c, hc, withValue_eq_some_iff.2 ⟨rfl, hv⟩⟩

theorem exists_entry_of_heldAt (h : snapshotOf title system cells = .ok snapshot)
    {place : Reference} {c : ReadCell} {value : Value} (held : heldAt cells place =
      some (c, value)) :
    ∃ cell, c.toCell value = .ok cell ∧ (place.name, cell) ∈ snapshot.cells := by
  obtain ⟨rfl, hc, hv⟩ := heldAt_eq_some_iff.1 held
  obtain ⟨shown, hs, -⟩ := snapshotOf_eq_ok.1 h
  obtain ⟨cell, -, hcell⟩ := exists_of_mem_left hs (c, value) (mem_presentCells_iff.2 ⟨hc, hv⟩)
  exact ⟨cell, hcell, (mem_cells_iff h).2 ⟨c, value, hc, hv, hcell, rfl⟩⟩

/-- A worksheet holds a value at a place if there is an entry under the name of the place. -/
theorem mem_keys_iff (h : snapshotOf title system cells = .ok snapshot) {place : Reference} :
    place.name ∈ snapshot.cells.keys ↔ (heldAt cells place).isSome := by
  rw [Keyed.keys, List.mem_map, Option.isSome_iff_exists]
  constructor
  · rintro ⟨⟨key, cell⟩, member, rfl⟩
    obtain ⟨c, value, hc, hv, -, name⟩ := (mem_cells_iff h).1 member
    obtain rfl := Reference.name_injective name
    exact ⟨(c, value), heldAt_eq_some_iff.2 ⟨rfl, hc, hv⟩⟩
  · rintro ⟨⟨c, value⟩, held⟩
    obtain ⟨cell, -, entry⟩ := exists_entry_of_heldAt h held
    exact ⟨(place.name, cell), entry, rfl⟩

/-- **Looking a spelling up finds the cell at the place that it denotes.** -/
theorem get_of_spelling (h : snapshotOf title system cells = .ok snapshot)
    {spelling : Reference.Spelling} (short : spelling.digits.length ≤ maxIntegerDigits) :
    (heldAt cells spelling.reference = none →
      snapshot.get (String.ofList spelling.text) = .ok none) ∧
    ∀ c value, heldAt cells spelling.reference = some (c, value) →
      ∃ cell, snapshot.get (String.ofList spelling.text) = .ok (some cell) ∧
        cell.row = spelling.reference.row ∧ cell.column = spelling.reference.column ∧
        cell.value = some value ∧ cell.format = codeOrGeneral c.format := by
  have read : Reference.read (String.ofList spelling.text) = .ok spelling.reference :=
    Reference.read_of_spelling String.toList_ofList short
  have found : snapshot.get (String.ofList spelling.text) =
      .ok (snapshot.cells.find? spelling.reference.name) := by
    rw [Snapshot.get, Reference.normalize, read]
    rfl
  have keys : spelling.reference.name ∈ snapshot.cells.keys ↔
      (heldAt cells spelling.reference).isSome := mem_keys_iff h
  constructor
  · intro held
    rw [held] at keys
    rw [found, Keyed.find?_eq_none_iff.2 fun member => Bool.false_ne_true (keys.1 member)]
  · intro c value held
    obtain ⟨at_place, -, -⟩ := heldAt_eq_some_iff.1 held
    obtain ⟨cell, hcell, entry⟩ := exists_entry_of_heldAt h held
    rw [found, ← at_place, (Keyed.find?_eq_some_iff (nodup_keys_cells h)).2 (at_place ▸ entry)]
    obtain ⟨text, -, rfl⟩ := toCell_eq_ok hcell
    exact ⟨_, rfl, rfl, rfl, rfl, rfl⟩

end Snapshot

/-! ## Loading -/

theorem firstCells_current (system : DateSystem) (sheet : StoredSheet) (others : List StoredSheet) :
    firstCells .current ⟨system, sheet :: others⟩ = (sheet.readCurrent? system).getD [] := rfl

theorem firstCells_legacy (system : DateSystem) (sheet : StoredSheet) (others : List StoredSheet) :
    firstCells .legacy ⟨system, sheet :: others⟩ = sheet.readLegacy system := rfl

/-- **Of the worksheets that are loaded, the first one becomes the snapshot.** -/
theorem loadStored_eq_ok {label : String} {format : FileFormat} {stored : StoredWorkbook}
    {snapshot : Snapshot} (h : loadStored label format stored = .ok snapshot) :
    ∃ sheet others, stored.sheets = sheet :: others ∧
      snapshotOf sheet.title stored.system (firstCells format stored) = .ok snapshot := by
  obtain ⟨system, sheets⟩ := stored
  cases format with
  | current =>
    rw [loadStored] at h
    dsimp only at h
    split at h
    · next read hread =>
      have each := mapM_eq_some.1 hread
      cases sheets with
      | nil =>
        obtain rfl := List.forall₂_nil_left_iff.1 each
        cases h
      | cons sheet others =>
        obtain ⟨first, rest, hfirst, -, rfl⟩ := List.forall₂_cons_left_iff.1 each
        obtain ⟨cells, hcells, rfl⟩ := Option.map_eq_some_iff.1 hfirst
        refine ⟨sheet, others, rfl, ?_⟩
        rw [firstCells_current, hcells]
        exact mapError_eq_ok.1 h
    · cases h
  | legacy =>
    cases sheets with
    | nil => cases h
    | cons sheet others => exact ⟨sheet, others, rfl, mapError_eq_ok.1 h⟩

theorem loadFirstSheet_eq_ok {upload : Upload} {filename : Option String} {snapshot : Snapshot}
    (h : loadFirstSheet upload filename = .ok snapshot) :
    ∃ format stored image, upload = .workbook format stored image ∧
      loadStored (labelOf filename) format stored = .ok snapshot := by
  have unpacked (package) : loadPackage (labelOf filename) package ≠ .ok snapshot := by
    rw [loadPackage]
    split <;> exact error_ne_ok
  cases upload with
  | workbook format stored image => exact ⟨format, stored, image, rfl, h⟩
  | archive package =>
    rw [loadFirstSheet] at h
    split_ifs at h
    exact absurd h (unpacked _)
  | bytes content =>
    rw [loadFirstSheet] at h
    split_ifs at h
    exact absurd h (unpacked _)

/-- The file gives the place of each cell by a text that is a reference. -/
def Upload.PlacesWritten : Upload → Prop
  | .workbook _ stored _ =>
    ∀ sheet ∈ stored.sheets, ∀ c ∈ sheet.cells, ∃ text, Reference.read text = .ok c.place
  | _ => True

theorem writable_of_mem_firstCells {format : FileFormat} {stored : StoredWorkbook} {image : Bytes}
    (written : (Upload.workbook format stored image).PlacesWritten) {c : ReadCell}
    (h : c ∈ firstCells format stored) : c.place.Writable := by
  obtain ⟨system, sheets⟩ := stored
  cases sheets with
  | nil => exact absurd h List.not_mem_nil
  | cons sheet others =>
    have places : ∃ c' ∈ sheet.cells, c'.place = c.place := by
      cases format with
      | current =>
        rw [firstCells_current] at h
        cases hr : sheet.readCurrent? system with
        | none =>
          rw [hr] at h
          exact absurd h List.not_mem_nil
        | some cells =>
          rw [hr] at h
          obtain ⟨c', hc', read⟩ := exists_of_mem_right (mapM_eq_some.1 hr) c h
          obtain ⟨value, -, rfl⟩ := Option.map_eq_some_iff.1 read
          exact ⟨c', hc', rfl⟩
      | legacy =>
        rw [firstCells_legacy] at h
        obtain ⟨c', hc', rfl⟩ := List.mem_map.1 h
        exact ⟨c', hc', rfl⟩
    obtain ⟨c', hc', same⟩ := places
    obtain ⟨text, read⟩ := written sheet List.mem_cons_self c' hc'
    exact same ▸ Reference.writable_of_read read

theorem firstCells_congr {format : FileFormat} {stored stored' : StoredWorkbook}
    (hs : stored'.system = stored.system) (hf : stored'.sheets.head? = stored.sheets.head?) :
    firstCells format stored' = firstCells format stored := by
  obtain ⟨system, sheets⟩ := stored
  obtain ⟨system', sheets'⟩ := stored'
  obtain rfl : system' = system := hs
  cases sheets with
  | nil =>
    obtain rfl : sheets' = [] := List.head?_eq_none_iff.1 hf
    rfl
  | cons sheet others =>
    obtain ⟨others', rfl⟩ := List.head?_eq_some_iff.1 hf
    cases format <;> rfl

/-- **A snapshot has the cells of the first worksheet that hold a value, each under the name of its
place, where every spelling of the place finds it. Other worksheets have no influence.** -/
theorem loadFirstSheet_entries {upload : Upload} {filename : Option String} {snapshot : Snapshot}
    (h : loadFirstSheet upload filename = .ok snapshot) (written : upload.PlacesWritten) :
    ∃ format stored image, upload = .workbook format stored image ∧
      (∀ key cell, (key, cell) ∈ snapshot.cells → IsEntry key cell) ∧
      snapshot.cells.keys.Nodup ∧
      (∀ place, place.name ∈ snapshot.cells.keys ↔
        (heldAt (firstCells format stored) place).isSome) ∧
      (∀ place place' : Reference, place.name = place'.name → place = place') ∧
      (∀ spelling : Reference.Spelling, spelling.digits.length ≤ maxIntegerDigits →
        (heldAt (firstCells format stored) spelling.reference = none →
          snapshot.get (String.ofList spelling.text) = .ok none) ∧
        ∀ c value, heldAt (firstCells format stored) spelling.reference = some (c, value) →
          ∃ cell, snapshot.get (String.ofList spelling.text) = .ok (some cell) ∧
            cell.row = spelling.reference.row ∧ cell.column = spelling.reference.column ∧
            cell.value = some value ∧ cell.format = codeOrGeneral c.format) ∧
      ∀ stored' image' filename' snapshot', stored'.system = stored.system →
        stored'.sheets.head? = stored.sheets.head? →
        loadFirstSheet (.workbook format stored' image') filename' = .ok snapshot' →
          snapshot' = snapshot := by
  obtain ⟨format, stored, image, rfl, loaded⟩ := loadFirstSheet_eq_ok h
  obtain ⟨sheet, others, hsheets, hs⟩ := loadStored_eq_ok loaded
  refine ⟨format, stored, image, rfl, ?_, nodup_keys_cells hs, fun place => mem_keys_iff hs,
    fun _ _ same => Reference.name_injective same, fun _ short => get_of_spelling hs short, ?_⟩
  · intro key cell member
    obtain ⟨c, value, at_place, -, hcell, rfl⟩ := (mem_cells_iff hs).1 member
    have read : c ∈ firstCells format stored :=
      (List.mem_filter.1 (List.mem_of_getLast? at_place)).1
    exact isEntry_of_toCell (writable_of_mem_firstCells written read) hcell
  · intro stored' image' filename' snapshot' system first loaded'
    have stored_loaded : loadStored (labelOf filename') format stored' = .ok snapshot' := loaded'
    obtain ⟨sheet', others', hsheets', hs'⟩ := loadStored_eq_ok stored_loaded
    rw [hsheets', hsheets] at first
    obtain rfl : sheet' = sheet := Option.some.inj first
    rw [system, firstCells_congr system (by rw [hsheets', hsheets]; rfl), hs] at hs'
    exact (Except.ok.inj hs').symm

/-- A worksheet with its cells out of order, two of them at one place and one without a content. -/
def rosterSheet : StoredSheet where
  title := "Roster"
  cells :=
    [⟨.fromOrigin 26 9, .number, some "2.5", "0.00"⟩,
     ⟨.fromOrigin 1 1, .text, some "Apollo", "General"⟩,
     ⟨.fromOrigin 2 2, .blank, none, "0.00"⟩,
     ⟨.fromOrigin 1 1, .text, some "Gemini", "@"⟩]

/-- A workbook with a second worksheet that has a cell at a place of the first. -/
def rosterBook : StoredWorkbook :=
  ⟨.from1904, [rosterSheet, ⟨"Other", [⟨.fromOrigin 1 1, .text, some "Vostok", "@"⟩]⟩]⟩

/-- The cells of the first worksheet as they are read, in reading order. -/
def rosterCells : List ReadCell :=
  [⟨.fromOrigin 1 1, some (.text "Apollo"), "General"⟩,
   ⟨.fromOrigin 1 1, some (.text "Gemini"), "@"⟩,
   ⟨.fromOrigin 2 2, none, "0.00"⟩,
   ⟨.fromOrigin 26 9, some (.real (.ofRat (5 / 2) false)), "0.00"⟩]

/-- The snapshot of the workbook. -/
def rosterSnapshot : Snapshot where
  title := "Roster"
  cells :=
    [("B2", ⟨"B2", 2, 1, some (.text "Gemini"), some "Gemini", "@"⟩),
     ("AA10", ⟨"AA10", 10, 26, some (.real (.ofRat (5 / 2) false)), some "2.50", "0.00"⟩)]
  system := .from1904

theorem loadFirstSheet_rosterBook :
    loadFirstSheet (.workbook .legacy rosterBook []) none = .ok rosterSnapshot := by
  have read : rosterSheet.readLegacy .from1904 =
      [rosterCells[3], rosterCells[0], rosterCells[2], rosterCells[1]] := by decide +kernel
  have sorted : [rosterCells[3], rosterCells[0], rosterCells[2], rosterCells[1]].mergeSort
      ReadCell.isBefore = rosterCells := by
    simp [rosterCells, List.mergeSort, List.MergeSort.Internal.splitInTwo, ReadCell.isBefore,
      Reference.fromOrigin]
  have order : inReadingOrder (rosterSheet.readLegacy .from1904) =
      [("B2", rosterCells[1]), ("C3", rosterCells[2]), ("AA10", rosterCells[3])] := by
    rw [inReadingOrder, read, sorted]
    decide +kernel
  have loaded : snapshotOf "Roster" .from1904 (rosterSheet.readLegacy .from1904) =
      .ok rosterSnapshot := by
    rw [snapshotOf, order]
    decide +kernel
  exact mapError_eq_ok.2 loaded

theorem placesWritten_rosterBook (format : FileFormat) (image : Bytes) :
    (Upload.workbook format rosterBook image).PlacesWritten := by
  have each : ∀ sheet ∈ rosterBook.sheets, ∀ c ∈ sheet.cells,
      Reference.read c.place.name = .ok c.place := by decide +kernel
  exact fun sheet hs c hc => ⟨c.place.name, each sheet hs c hc⟩

/-- Of two cells at one place the second is found, under a spelling that is not its name. -/
theorem loadFirstSheet_entries_rosterBook :
    loadFirstSheet (.workbook .legacy rosterBook []) none = .ok rosterSnapshot ∧
      (Upload.workbook .legacy rosterBook []).PlacesWritten ∧
      (∀ key cell, (key, cell) ∈ rosterSnapshot.cells → IsEntry key cell) ∧
      ∃ cell, rosterSnapshot.get " $b$002" = .ok (some cell) ∧
        cell.value = some (.text "Gemini") := by
  refine ⟨loadFirstSheet_rosterBook, placesWritten_rosterBook .legacy [], ?_⟩
  obtain ⟨format, stored, image, same, entries, -, -, -, found, -⟩ :=
    loadFirstSheet_entries loadFirstSheet_rosterBook (placesWritten_rosterBook .legacy [])
  obtain ⟨rfl, rfl, rfl⟩ := Upload.workbook.inj same
  refine ⟨entries, ?_⟩
  -- The place `B2` with marks, a small letter, leading zeros and a blank.
  have read : Reference.read " $b$002" = .ok (.fromOrigin 1 1) := by decide +kernel
  obtain ⟨spelling, text, place, short⟩ := Reference.exists_spelling_of_read read
  have held : heldAt (firstCells .legacy rosterBook) spelling.reference =
      some (rosterCells[1], .text "Gemini") := by
    rw [place]
    decide +kernel
  obtain ⟨cell, hget, -, -, hv, -⟩ := (found spelling short).2 _ _ held
  rw [← text, String.ofList_toList] at hget
  exact ⟨cell, hget, hv⟩

end SlideMerge.Workbook
