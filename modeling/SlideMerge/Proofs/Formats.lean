import SlideMerge.Placeholder.Resolver
import SlideMerge.Proofs.Serial
import SlideMerge.Proofs.Snapshot

/-!
# One workbook in both formats

A `SharedWorkbook` says what a workbook holds in terms that both file formats can store: numbers
with a numeral that stands for them, truth values, errors, texts and blanks, with the codes of their
formats.

* **Cells.** Only numbers can be read differently. `Numeral.ReadAlike` says which numbers are not,
  and it is exact (`numberValue_eq_iff`): no length of time, no bare time of day and no serial that
  the calendar does not reach is among them, nor a number whose code one format alone takes for one
  of dates.
* **Worksheets.** Reading order depends on the places alone, so that worksheets with the same cells
  at the same places have the same snapshot (`snapshotOf_congr`), and with other values at these
  places one with the same keys (`keys_congr`).

Main result: `loadFirstSheet_formats`.
-/

namespace SlideMerge.Workbook

open Text Numeric Format Sheet Placeholder

/-! ## What both formats can store -/

/-- A number with a numeral that both formats read as this number. -/
structure Numeral where
  text : String
  value : Rat
  double : Double
  /-- The number as the current format reads it: an integer if there is no point and no exponent. -/
  number : Number
  toRat?_double : double.toRat? = some value
  read_legacy : Double.ofText? text.toList = some double
  read_current : readNumber? text = some number
  same : number = .real double ∨ ∃ n, number = .integer n ∧ double.toInt? = some n

/-- What a cell holds. -/
inductive SharedContent
  | number (n : Numeral)
  | logical (b : Bool)
  | error (code : Int) (name : String) (known : (code, name) ∈ errorTexts)
  | text (s : String)
  | blank

/-- A cell that both formats can store. -/
structure SharedCell where
  place : Reference
  content : SharedContent
  format : String

/-- A worksheet that both formats can store. -/
structure SharedSheet where
  title : String
  cells : List SharedCell

/-- A workbook that both formats can store. -/
structure SharedWorkbook where
  system : DateSystem
  sheets : List SharedSheet

/-- The kind and the text of a content. The formats differ in errors, of which the legacy format
stores the code. -/
def SharedContent.stored : SharedContent → FileFormat → ContentKind × Option String
  | number n, _ => (.number, some n.text)
  | logical b, _ => (.logical, some (if b then "1" else "0"))
  | error _ name _, .current => (.error, some name)
  | error code _ _, .legacy => (.error, some (String.ofList (decimalInt code)))
  | text s, _ => (.text, some s)
  | blank, _ => (.blank, none)

/-- A cell as a format stores it. -/
def SharedCell.stored (c : SharedCell) (file : FileFormat) : StoredCell :=
  ⟨c.place, (c.content.stored file).1, (c.content.stored file).2, c.format⟩

/-- A worksheet as a format stores it. -/
def SharedSheet.stored (sheet : SharedSheet) (file : FileFormat) : StoredSheet :=
  ⟨sheet.title, sheet.cells.map fun c => c.stored file⟩

def SharedWorkbook.stored (w : SharedWorkbook) (file : FileFormat) : StoredWorkbook :=
  ⟨w.system, w.sheets.map fun sheet => sheet.stored file⟩

/-! ## Values -/

/-- The value that is read for a stored cell of the legacy format. -/
def StoredCell.legacyValue (system : DateSystem) (c : StoredCell) : Option Value :=
  legacyValue? system c.legacyContent.1 c.legacyContent.2

/-- The numbers that are read alike in both formats. -/
inductive Numeral.ReadAlike (system : DateSystem) (format : List Char) (n : Numeral) : Prop
  /-- A number that neither format takes for a date, without a point and an exponent if it is
  integral. -/
  | plain (notCurrent : isDateCode format = false) (notLegacy : isLegacyDateCode format = false)
      (written : n.number = .real n.double → n.double.toInt? = none)
  /-- A number that the legacy format alone takes for a date, of which the calendar has none. -/
  | beyond (notCurrent : isDateCode format = false) (legacy : isLegacyDateCode format = true)
      (written : n.number = .real n.double)
      (unreached : legacyDecode? system (.real n.double) = none)
  /-- A serial that is a point in time in the current format. In the 1900 system it is positive, and
  the milliseconds come out alike. -/
  | moment (current : isDateCode format = true) (legacy : isLegacyDateCode format = true)
      (noDuration : isDurationCode format = false)
      (timed : ∃ t, decode? system n.number = some (.dateTime t))
      (late : n.value < 0 → system = .from1904) (millis : SameMillis n.value)

def SharedCell.ReadAlike (system : DateSystem) (c : SharedCell) : Prop :=
  ∀ n, c.content = .number n → n.ReadAlike system c.format.toList

def Numeral.legacyValue (system : DateSystem) (format : List Char) (n : Numeral) : Value :=
  if isLegacyDateCode format then dateOfSerial system (.real n.double)
  else (n.double.toInt?.map .integer).getD (.real n.double)

section Numbers

variable {system : DateSystem} {format : List Char} {n : Numeral}

theorem decode?_number : decode? system n.number = decode? system (.real n.double) := by
  obtain same | ⟨k, same, whole⟩ := n.same
  · rw [same]
  · rw [same, decode?_real_of_toInt? whole]

theorem dateOfSerial_real (x : Double) : dateOfSerial system (.real x) =
    ((legacyDecode? system (.real x)).map .dateTime).getD (.real x) := by
  rw [dateOfSerial]
  cases h : (Value.real x).number?.bind (legacyDecode? system) with
  | none =>
    have h' : legacyDecode? system (.real x) = none := h
    rw [h']
    rfl
  | some t =>
    have h' : legacyDecode? system (.real x) = some t := h
    rw [h']
    rfl

theorem serialValue_ne_integer {serial : Number} {k : Int} :
    serialValue system format serial ≠ .integer k := by
  rw [serialValue]
  split
  · cases decodeDuration? serial <;> exact fun h => Value.noConfusion h
  · obtain _ | (t | t) := decode? system serial <;> exact fun h => Value.noConfusion h

theorem serialValue_ne_real {serial : Number} {x : Double} :
    serialValue system format serial ≠ .real x := by
  rw [serialValue]
  split
  · cases decodeDuration? serial <;> exact fun h => Value.noConfusion h
  · obtain _ | (t | t) := decode? system serial <;> exact fun h => Value.noConfusion h

theorem serialValue_eq_dateTime_iff {serial : Number} {t : Calendar.DateTime} :
    serialValue system format serial = .dateTime t ↔
      isDurationCode format = false ∧ decode? system serial = some (.dateTime t) := by
  rw [serialValue]
  cases isDurationCode format with
  | true =>
    refine iff_of_false ?_ fun h => Bool.noConfusion h.1
    cases decodeDuration? serial <;> exact fun h => Value.noConfusion h
  | false =>
    obtain _ | (t' | t') := decode? system serial <;> simp

/-- A number that is no date in either format is an integer in the legacy format if it is
integral. -/
theorem toValue_eq_iff : n.number.toValue = (n.double.toInt?.map .integer).getD (.real n.double) ↔
    (n.number = .real n.double → n.double.toInt? = none) := by
  obtain same | ⟨k, same, whole⟩ := n.same
  · rw [same]
    cases n.double.toInt? with
    | none => exact iff_of_true rfl fun _ => rfl
    | some k => exact iff_of_false (fun h => Value.noConfusion h) fun h => nomatch h rfl
  · rw [same, whole]
    exact iff_of_true rfl fun h => Number.noConfusion h

theorem toValue_eq_dateOfSerial_iff : n.number.toValue = dateOfSerial system (.real n.double) ↔
    n.number = .real n.double ∧ legacyDecode? system (.real n.double) = none := by
  rw [dateOfSerial_real]
  obtain same | ⟨k, same, -⟩ := n.same <;> rw [same] <;>
    cases legacyDecode? system (.real n.double) <;> simp [Number.toValue]

theorem serialValue_eq_dateOfSerial_iff :
    serialValue system format n.number = dateOfSerial system (.real n.double) ↔
      isDurationCode format = false ∧ (∃ t, decode? system n.number = some (.dateTime t)) ∧
        (n.value < 0 → system = .from1904) ∧ SameMillis n.value := by
  rw [dateOfSerial_real]
  constructor
  · intro same
    cases decoded : legacyDecode? system (.real n.double) with
    | none =>
      rw [decoded] at same
      exact absurd same serialValue_ne_real
    | some t =>
      rw [decoded] at same
      obtain ⟨noDuration, timed⟩ := serialValue_eq_dateTime_iff.1 same
      refine ⟨noDuration, ⟨t, timed⟩, ?_⟩
      rw [decode?_number] at timed
      exact (legacyDecode?_iff_of_decode? n.toRat?_double timed).1 decoded
  · rintro ⟨noDuration, ⟨t, timed⟩, alike⟩
    have decoded := (legacyDecode?_iff_of_decode? n.toRat?_double (decode?_number ▸ timed)).2 alike
    rw [decoded]
    exact serialValue_eq_dateTime_iff.2 ⟨noDuration, timed⟩

/-- **Numbers are read alike in these cases and no other.** -/
theorem numberValue_eq_iff :
    numberValue system format n.number = n.legacyValue system format ↔
      n.ReadAlike system format := by
  rw [numberValue, Numeral.legacyValue]
  constructor
  · intro same
    cases current : isDateCode format <;> cases legacy : isLegacyDateCode format <;>
      rw [current, legacy] at same
    · exact .plain current legacy (toValue_eq_iff.1 same)
    · obtain ⟨written, unreached⟩ := toValue_eq_dateOfSerial_iff.1 same
      exact .beyond current legacy written unreached
    · refine absurd same ?_
      cases n.double.toInt? with
      | none => exact serialValue_ne_real
      | some k => exact serialValue_ne_integer
    · obtain ⟨noDuration, timed, late, millis⟩ := serialValue_eq_dateOfSerial_iff.1 same
      exact .moment current legacy noDuration timed late millis
  · intro alike
    cases alike with
    | plain current legacy written =>
      rw [current, legacy]
      exact toValue_eq_iff.2 written
    | beyond current legacy written unreached =>
      rw [current, legacy]
      exact toValue_eq_dateOfSerial_iff.2 ⟨written, unreached⟩
    | moment current legacy noDuration timed late millis =>
      rw [current, legacy]
      exact serialValue_eq_dateOfSerial_iff.2 ⟨noDuration, timed, late, millis⟩

end Numbers

/-- The value that a format reads for a cell. -/
def SharedCell.value (system : DateSystem) (c : SharedCell) (file : FileFormat) : Option Value :=
  match c.content, file with
  | .number n, .current => some (numberValue system c.format.toList n.number)
  | .number n, .legacy => some (n.legacyValue system c.format.toList)
  | .logical b, _ => some (.logical b)
  | .error _ name _, _ => some (.text name)
  | .text s, _ => some (.text s)
  | .blank, _ => none

theorem errorTexts_found : ∀ e ∈ errorTexts, e.2 ≠ "" ∧ errorTexts.lookup e.1 = some e.2 ∧
    readInteger (String.ofList (decimalInt e.1)) = .ok e.1 := by
  decide +kernel

theorem readInteger_flag (b : Bool) :
    (if b then "1" else "0") ≠ "" ∧ readInteger (if b then "1" else "0") = .ok b.toInt := by
  cases b <;> decide +kernel

section Cells

variable (system : DateSystem) (c : SharedCell)

theorem currentValue?_stored :
    (c.stored .current).currentValue? system = some (c.value system .current) := by
  obtain ⟨place, content, format⟩ := c
  cases content with
  | number n =>
    have unread : readNumber? "" = none := by decide +kernel
    have nonempty : n.text ≠ "" := by
      intro empty
      have read := n.read_current
      rw [empty, unread] at read
      cases read
    simp only [SharedCell.stored, SharedContent.stored, StoredCell.currentValue?, if_neg nonempty,
      n.read_current, Option.map_some, SharedCell.value]
  | logical b =>
    obtain ⟨nonempty, read⟩ := readInteger_flag b
    simp only [SharedCell.stored, SharedContent.stored, StoredCell.currentValue?, if_neg nonempty,
      read, SharedCell.value]
    cases b <;> rfl
  | error code name known =>
    obtain ⟨nonempty, -⟩ := errorTexts_found _ known
    simp only [SharedCell.stored, SharedContent.stored, StoredCell.currentValue?, if_neg nonempty,
      SharedCell.value]
  | text s => rfl
  | blank => rfl

theorem legacyContent_number (n : Numeral) (place : Reference) (format : String) :
    StoredCell.legacyContent ⟨place, .number, some n.text, format⟩ =
      (if isLegacyDateCode format.toList then .date else .number, some (.real n.double)) := by
  simp only [StoredCell.legacyContent, n.read_legacy, Option.getD_some]

theorem legacyValue_stored :
    (c.stored .legacy).legacyValue system = c.value system .legacy := by
  obtain ⟨place, content, format⟩ := c
  cases content with
  | number n =>
    change legacyValue? system (StoredCell.legacyContent ⟨place, .number, some n.text, format⟩).1
      (StoredCell.legacyContent ⟨place, .number, some n.text, format⟩).2 =
        some (n.legacyValue system format.toList)
    rw [legacyContent_number, Numeral.legacyValue]
    by_cases date : isLegacyDateCode format.toList
    · rw [if_pos date, if_pos date]
      rfl
    · rw [if_neg date, if_neg date]
      rfl
  | logical b =>
    obtain ⟨-, read⟩ := readInteger_flag b
    simp only [SharedCell.stored, SharedContent.stored, StoredCell.legacyValue,
      StoredCell.legacyContent, read, SharedCell.value]
    cases b <;> rfl
  | error code name known =>
    obtain ⟨-, found, read⟩ := errorTexts_found _ known
    have kept : (((some (Value.integer code)).bind integerOf?).bind fun code =>
        errorTexts.lookup code) =
        some name := found
    simp only [SharedCell.stored, SharedContent.stored, StoredCell.legacyValue,
      StoredCell.legacyContent, read, SharedCell.value, legacyValue?, Except.toOption,
        Option.map_some,
      kept, Option.getD_some]
  | text s => rfl
  | blank => rfl

variable {system c}

/-- **Cells are read alike in these cases and no other.** -/
theorem value_eq_iff : c.value system .current = c.value system .legacy ↔ c.ReadAlike system := by
  obtain ⟨place, content, format⟩ := c
  cases content with
  | number n =>
    have each : SharedCell.ReadAlike system ⟨place, .number n, format⟩ ↔
        n.ReadAlike system format.toList :=
      ⟨fun h => h n rfl, fun h n' same => SharedContent.number.inj same ▸ h⟩
    rw [each, ← numberValue_eq_iff]
    exact Option.some_inj
  | _ => exact iff_of_true rfl fun n same => nomatch same

theorem isSome_value (file : FileFormat) :
    (c.value system file).isSome = (c.value system .current).isSome := by
  obtain ⟨place, content, format⟩ := c
  cases file with
  | current => rfl
  | legacy => cases content <;> rfl

end Cells

/-! ## Worksheets with cells at the same places -/

section Order

variable {R : ReadCell → ReadCell → Prop}

/-- **The order in which cells are read depends on their places alone.** -/
theorem related_inReadingOrder (places : ∀ c c', R c c' → c.place = c'.place)
    {cells cells' : List ReadCell} (h : List.Forall₂ R cells cells') :
    Keyed.Related R (inReadingOrder cells) (inReadingOrder cells') := by
  have pairs : ∀ pair ∈ cells.zip cells', R pair.1 pair.2 := by
    intro pair member
    exact (List.forall₂_iff_zip.1 h).2 member
  have length := h.length_eq
  have firsts : (cells.zip cells').map Prod.fst = cells := List.map_fst_zip length.le
  have seconds : (cells.zip cells').map Prod.snd = cells' := List.map_snd_zip length.ge
  -- Both lists are sorted by sorting the pairs of their cells.
  have sorted : ((cells.zip cells').mergeSort fun p p' => p.1.isBefore p'.1).map Prod.fst =
      cells.mergeSort ReadCell.isBefore := by
    rw [List.map_mergeSort (s := ReadCell.isBefore) (f := Prod.fst) fun _ _ _ _ => rfl, firsts]
  have sorted' : ((cells.zip cells').mergeSort fun p p' => p.1.isBefore p'.1).map Prod.snd =
      cells'.mergeSort ReadCell.isBefore := by
    rw [List.map_mergeSort (s := ReadCell.isBefore) (f := Prod.snd) fun p hp p' hp' => ?_, seconds]
    simp only [ReadCell.isBefore, places _ _ (pairs p hp), places _ _ (pairs p' hp')]
  refine Keyed.related_ofPairs ?_
  rw [← sorted, ← sorted', List.map_map, List.map_map, Keyed.Related, List.forall₂_map_left_iff,
    List.forall₂_map_right_iff, List.forall₂_same]
  intro pair member
  have related := pairs pair (List.mem_mergeSort.1 member)
  exact ⟨congrArg Reference.name (places _ _ related), related⟩

theorem forall₂_presentCells {P : ReadCell × Value → ReadCell × Value → Prop}
    (places : ∀ c c', R c c' → c.place = c'.place)
    (values : ∀ c c', R c c' → Option.Rel P c.withValue c'.withValue)
    {cells cells' : List ReadCell} (h : List.Forall₂ R cells cells') :
    List.Forall₂ P (presentCells cells) (presentCells cells') :=
  List.rel_filterMap (fun _ _ he => values _ _ he.2) (related_inReadingOrder places h)

end Order

section Snapshots

variable {title : String} {system : DateSystem} {cells cells' : List ReadCell}

theorem codeOrGeneral_codeOrGeneral (code : String) :
    codeOrGeneral (codeOrGeneral code) = codeOrGeneral code := by
  by_cases empty : code = ""
  · rw [empty]
    rfl
  · have kept : codeOrGeneral code = code := if_neg empty
    rw [kept, kept]

theorem toCell_congr {c c' : ReadCell} (hp : c.place = c'.place)
    (hf : codeOrGeneral c.format = codeOrGeneral c'.format) (value : Value) :
    c.toCell value = c'.toCell value := by
  rw [ReadCell.toCell, ReadCell.toCell, ← render_codeOrGeneral value c.format, hf,
    render_codeOrGeneral value c'.format, hp]

/-- **Worksheets with the same values at the same places have the same snapshot.** -/
theorem snapshotOf_congr (h : List.Forall₂ (fun c c' : ReadCell => c.place = c'.place ∧
      codeOrGeneral c.format = codeOrGeneral c'.format ∧ c.value = c'.value) cells cells') :
    snapshotOf title system cells = snapshotOf title system cells' := by
  have present := forall₂_presentCells
    (P := fun p p' => p.1.toCell p.2 = p'.1.toCell p'.2) (fun _ _ alike => alike.1)
    (fun c c' alike => by
      obtain ⟨hp, hf, hv⟩ := alike
      rw [ReadCell.withValue, ReadCell.withValue, hv]
      cases c'.value with
      | none => exact .none
      | some value => exact .some (toCell_congr hp hf value)) h
  rw [snapshotOf, snapshotOf]
  exact congrArg (· >>= _) (mapM_congr present)

theorem title_of_snapshotOf {s : Snapshot} (h : snapshotOf title system cells = .ok s) :
    s.title = title ∧ s.system = system := by
  obtain ⟨-, -, rfl⟩ := snapshotOf_eq_ok.1 h
  exact ⟨rfl, rfl⟩

/-- Worksheets with values at the same places have snapshots with the same keys. -/
theorem keys_congr (h : List.Forall₂ (fun c c' : ReadCell => c.place = c'.place ∧
      c.value.isSome = c'.value.isSome) cells cells') {s s' : Snapshot}
    (hs : snapshotOf title system cells = .ok s) (hs' : snapshotOf title system cells' = .ok s') :
    s.cells.keys = s'.cells.keys := by
  have present := forall₂_presentCells
    (P := fun p p' => p.1.place.name = p'.1.place.name) (fun _ _ alike => alike.1)
    (fun c c' alike => by
      obtain ⟨hp, hv⟩ := alike
      rw [ReadCell.withValue, ReadCell.withValue]
      cases hc : c.value <;> cases hc' : c'.value <;> rw [hc, hc'] at hv
      · exact .none
      · cases hv
      · cases hv
      · exact .some (congrArg Reference.name hp)) h
  rw [keys_cells hs, keys_cells hs']
  exact List.forall₂_eq_eq_eq ▸ (List.forall₂_map_left_iff.2 (List.forall₂_map_right_iff.2 present))

end Snapshots

/-! ## Workbooks -/

def SharedCell.read (system : DateSystem) (file : FileFormat) (c : SharedCell) : ReadCell where
  place := c.place
  value := c.value system file
  format :=
    match file with
    | .current => c.format
    | .legacy => codeOrGeneral c.format

section Loading

variable {system : DateSystem} {label : String}

theorem readCurrent?_stored (sheet : SharedSheet) :
    (sheet.stored .current).readCurrent? system =
      some (sheet.cells.map (SharedCell.read system .current)) := by
  rw [StoredSheet.readCurrent?, mapM_eq_some, SharedSheet.stored, List.forall₂_map_left_iff,
    List.forall₂_map_right_iff, List.forall₂_same]
  intro c _
  rw [currentValue?_stored]
  rfl

theorem readLegacy_stored (sheet : SharedSheet) :
    (sheet.stored .legacy).readLegacy system =
      sheet.cells.map (SharedCell.read system .legacy) := by
  rw [StoredSheet.readLegacy, SharedSheet.stored, List.map_map]
  refine List.map_congr_left fun c _ => ?_
  have value := legacyValue_stored system c
  rw [StoredCell.legacyValue] at value
  simp only [Function.comp_apply, SharedCell.read, ← value]
  rfl

/-- **A workbook that both formats can store is readable in both.** -/
theorem loadStored_stored (w : SharedWorkbook) (file : FileFormat) :
    loadStored label file (w.stored file) =
      firstSnapshot label w.system (w.sheets.map fun sheet =>
        (sheet.title, sheet.cells.map (SharedCell.read w.system file))) := by
  cases file with
  | current =>
    have read : ((w.stored .current).sheets.mapM fun sheet =>
        (sheet.readCurrent? w.system).map (sheet.title, ·)) = some (w.sheets.map fun sheet =>
          (sheet.title, sheet.cells.map (SharedCell.read w.system .current))) := by
      rw [mapM_eq_some, SharedWorkbook.stored, List.forall₂_map_left_iff,
        List.forall₂_map_right_iff, List.forall₂_same]
      intro sheet _
      rw [readCurrent?_stored]
      rfl
    have system : (w.stored .current).system = w.system := rfl
    simp only [loadStored, system, read]
  | legacy =>
    have read : ((w.stored .legacy).sheets.map fun sheet =>
        (sheet.title, sheet.readLegacy w.system)) = w.sheets.map fun sheet =>
          (sheet.title, sheet.cells.map (SharedCell.read w.system .legacy)) := by
      rw [SharedWorkbook.stored, List.map_map]
      refine List.map_congr_left fun sheet _ => ?_
      rw [Function.comp_apply, readLegacy_stored]
      rfl
    have system : (w.stored .legacy).system = w.system := rfl
    simp only [loadStored, system, read]

/-- The file of a workbook in a format, whatever its bytes are. -/
def SharedWorkbook.upload (w : SharedWorkbook) (images : FileFormat → Bytes) (file : FileFormat) :
    Upload :=
  .workbook file (w.stored file) (images file)

theorem loadFirstSheet_upload (w : SharedWorkbook) (images : FileFormat → Bytes) (file : FileFormat)
    (filename : Option String) :
    loadFirstSheet (w.upload images file) filename =
      firstSnapshot (labelOf filename) w.system (w.sheets.map fun sheet =>
        (sheet.title, sheet.cells.map (SharedCell.read w.system file))) :=
  loadStored_stored w file

theorem loadFirstSheet_places {w : SharedWorkbook} {images : FileFormat → Bytes}
    {filename : Option String} {s s' : Snapshot}
    (hs : loadFirstSheet (w.upload images .current) filename = .ok s)
    (hs' : loadFirstSheet (w.upload images .legacy) filename = .ok s') :
    s.title = s'.title ∧ s.system = s'.system ∧ s.cells.keys = s'.cells.keys := by
  rw [loadFirstSheet_upload] at hs hs'
  obtain ⟨system, sheets⟩ := w
  cases sheets with
  | nil => cases hs
  | cons sheet others =>
    have hs := mapError_eq_ok.1 hs
    have hs' := mapError_eq_ok.1 hs'
    obtain ⟨title, ofSystem⟩ := title_of_snapshotOf hs
    obtain ⟨title', ofSystem'⟩ := title_of_snapshotOf hs'
    refine ⟨title.trans title'.symm, ofSystem.trans ofSystem'.symm, keys_congr ?_ hs hs'⟩
    rw [List.forall₂_map_left_iff, List.forall₂_map_right_iff, List.forall₂_same]
    exact fun c _ => ⟨rfl, (isSome_value .legacy).symm⟩

theorem loadFirstSheet_alike {w : SharedWorkbook} {images : FileFormat → Bytes}
    {filename : Option String}
    (alike : ∀ sheet ∈ w.sheets.head?, ∀ c ∈ sheet.cells, c.ReadAlike w.system) :
    loadFirstSheet (w.upload images .current) filename =
      loadFirstSheet (w.upload images .legacy) filename := by
  rw [loadFirstSheet_upload, loadFirstSheet_upload]
  obtain ⟨system, sheets⟩ := w
  cases sheets with
  | nil => rfl
  | cons sheet others =>
    have same : snapshotOf sheet.title system (sheet.cells.map (SharedCell.read system .current)) =
        snapshotOf sheet.title system (sheet.cells.map (SharedCell.read system .legacy)) := by
      refine snapshotOf_congr ?_
      rw [List.forall₂_map_left_iff, List.forall₂_map_right_iff, List.forall₂_same]
      refine fun c hc => ⟨rfl, ?_, value_eq_iff.2 (alike sheet rfl c hc)⟩
      exact (codeOrGeneral_codeOrGeneral c.format).symm
    exact congrArg (Except.mapError LoadFault.display) same

/-- **The two formats of one workbook.** The snapshots have the same title, the same date system and
cells at the same places. A cell has the same value in both if it is no number or one that is read
alike, and only then; and if that holds of all cells of the first worksheet, the two formats have
the same snapshot, or fail alike, so that every specification resolves to the same text. -/
theorem loadFirstSheet_formats (w : SharedWorkbook) (images : FileFormat → Bytes)
    (filename : Option String) :
    (∀ s s', loadFirstSheet (w.upload images .current) filename = .ok s →
      loadFirstSheet (w.upload images .legacy) filename = .ok s' →
        s.title = s'.title ∧ s.system = s'.system ∧ s.cells.keys = s'.cells.keys) ∧
    (∀ c : SharedCell, (c.stored .current).currentValue? w.system =
      some ((c.stored .legacy).legacyValue w.system) ↔ c.ReadAlike w.system) ∧
    ((∀ sheet ∈ w.sheets.head?, ∀ c ∈ sheet.cells, c.ReadAlike w.system) →
      loadFirstSheet (w.upload images .current) filename =
        loadFirstSheet (w.upload images .legacy) filename) := by
  refine ⟨fun _ _ => loadFirstSheet_places, fun c => ?_, loadFirstSheet_alike⟩
  rw [currentValue?_stored, legacyValue_stored, Option.some_inj, value_eq_iff]

end Loading

def halfDay : Numeral where
  text := "0.5"
  value := 1 / 2
  double := .ofRat (1 / 2) false
  number := .real (.ofRat (1 / 2) false)
  toRat?_double := by decide +kernel
  read_legacy := by decide +kernel
  read_current := by decide +kernel
  same := .inl rfl

/-- The cell of a workbook that shows half a day as a time. -/
def noonCell : SharedCell :=
  ⟨.fromOrigin 0 0, .number halfDay, "h:mm"⟩

/-- A workbook that shows half a day as a time. -/
def noonBook : SharedWorkbook :=
  ⟨.from1900, [⟨"Sheet1", [noonCell]⟩]⟩

def noon : Calendar.TimeOfDay :=
  ⟨43200000000, by decide⟩

/-- Noon is a bare time in the current format, and on the last day of 1899 in the legacy format. -/
def noonValue : FileFormat → Value
  | .current => .time noon
  | .legacy => .dateTime ⟨timeOnlyDate, noon⟩

/-- The snapshot of the workbook. -/
def noonSnapshot (file : FileFormat) : Snapshot where
  title := "Sheet1"
  cells := [("A1", ⟨"A1", 1, 0, some (noonValue file), some "12:00", "h:mm"⟩)]
  system := .from1900

theorem loadFirstSheet_noonBook (images : FileFormat → Bytes) (file : FileFormat) :
    loadFirstSheet (noonBook.upload images file) none = .ok (noonSnapshot file) := by
  have order : inReadingOrder [noonCell.read .from1900 file] =
      [("A1", noonCell.read .from1900 file)] := by
    rw [inReadingOrder, List.mergeSort_singleton]
    cases file <;> decide +kernel
  have loaded : snapshotOf "Sheet1" .from1900 [noonCell.read .from1900 file] =
      .ok (noonSnapshot file) := by
    rw [snapshotOf, order]
    cases file <;> decide +kernel
  rw [loadFirstSheet_upload]
  exact mapError_eq_ok.2 loaded

/-- **A time of day is on no day in one format and on a day of 1899 in the other**, and so the text
for its month and year depends on the format of the file. -/
theorem exists_formats_apart : ∃ (w : SharedWorkbook) (s s' : Snapshot), ∀ images,
    loadFirstSheet (w.upload images .current) none = .ok s ∧
    loadFirstSheet (w.upload images .legacy) none = .ok s' ∧
    s.cells ≠ s'.cells ∧
    resolve s (.monthYear "A1" .short) = notAvailable ∧
    resolve s' (.monthYear "A1" .short) = "Dec 1899" :=
  ⟨noonBook, noonSnapshot .current, noonSnapshot .legacy, fun images =>
    ⟨loadFirstSheet_noonBook images .current, loadFirstSheet_noonBook images .legacy, by decide,
      by decide +kernel, by decide +kernel⟩⟩

end SlideMerge.Workbook
