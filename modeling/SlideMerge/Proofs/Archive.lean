import Mathlib.Data.List.TakeWhile
import SlideMerge.Deck.Rewrite
import SlideMerge.Proofs.Traversal

/-!
# Written archives are read again

What is written into an archive can be read from it, and writing it once more changes nothing. The
lemmas follow the parts of an archive.

* **Extra fields.** Records that have the bytes they declare are split off one by one, whatever
  follows (`splitRecords_append`). So dropping the records for large entries leaves a sound field,
  and dropping them twice is dropping them once.
* **Entries.** An entry can be read if it is `Readable`, and a written entry is.
* **Names.** A name stands for the last of its entries. Where two archives have the same names at
  the same places, a name stands for entries at the same place (`find?_forall₂`).
* **Files.** An archive that is found as it is opens as it is if its entries do
  (`openTemplate_archive`).
-/

namespace SlideMerge.Archive

open Text

/-! ## Extra fields -/

/-- A record with the bytes that it declares. -/
def IsRecord (r : Bytes) : Prop :=
  ∃ a b c d body, r = a :: b :: c :: d :: body ∧ body.length = word c d

theorem splitRecords_of_length_lt {field : Bytes} (h : field.length < 4) :
    splitRecords field = ([], field) := by
  match field, h with
  | [], _ | [_], _ | [_, _], _ | [_, _, _], _ => rw [splitRecords]; simp
  | _ :: _ :: _ :: _ :: _, h => exact absurd h (by simp)

theorem splitRecords_append {r : Bytes} (h : IsRecord r) (tail : Bytes) :
    splitRecords (r ++ tail) = (r :: (splitRecords tail).1, (splitRecords tail).2) := by
  obtain ⟨a, b, c, d, body, rfl, hl⟩ := h
  simp only [List.cons_append]
  rw [splitRecords]
  simp only [← hl, List.drop_left, List.take_left]

theorem splitRecords_of_short {a b c d : UInt8} {body : Bytes} (h : body.length < word c d) :
    splitRecords (a :: b :: c :: d :: body) = ([a :: b :: c :: d :: body], []) := by
  rw [splitRecords]
  simp only [List.drop_of_length_le h.le, List.take_of_length_le h.le, splitRecords_nil]

theorem isRecord_take {a b c d : UInt8} {body : Bytes} (h : ¬ body.length < word c d) :
    IsRecord (a :: b :: c :: d :: body.take (word c d)) :=
  ⟨a, b, c, d, _, rfl, by rw [List.length_take, Nat.min_eq_left (Nat.not_lt.1 h)]⟩

/-- What is kept of a record. -/
def kept (r : Bytes) : Bytes :=
  if recordId r = largeEntryId then [] else r

theorem stripLargeEntry_of_length_lt {field : Bytes} (h : field.length < 4) :
    stripLargeEntry field = field := by
  rw [stripLargeEntry, splitRecords_of_length_lt h]
  rfl

theorem stripLargeEntry_append {r : Bytes} (h : IsRecord r) (tail : Bytes) :
    stripLargeEntry (r ++ tail) = kept r ++ stripLargeEntry tail := by
  rw [stripLargeEntry, splitRecords_append h, kept]
  by_cases hid : recordId r = largeEntryId <;> simp [stripLargeEntry, hid]

theorem stripLargeEntry_of_short {a b c d : UInt8} {body : Bytes} (h : body.length < word c d) :
    stripLargeEntry (a :: b :: c :: d :: body) = kept (a :: b :: c :: d :: body) := by
  rw [stripLargeEntry, splitRecords_of_short h, kept]
  by_cases hid : recordId (a :: b :: c :: d :: body) = largeEntryId <;> simp [hid]

/-- A field is shorter than a record's head, or a record that is cut off, or a record and a
field. -/
theorem field_induction {motive : Bytes → Prop} (rest : ∀ field, field.length < 4 → motive field)
    (short : ∀ a b c d body, body.length < word c d → motive (a :: b :: c :: d :: body))
    (record : ∀ r tail, IsRecord r → motive tail → motive (r ++ tail)) (field : Bytes) :
    motive field := by
  fun_induction splitRecords field with
  | case1 a b c d body size records after h ih =>
    by_cases hs : body.length < word c d
    · exact short a b c d body hs
    · have hr := record _ _ (isRecord_take (a := a) (b := b) hs) ih
      rwa [List.cons_append, List.cons_append, List.cons_append, List.cons_append,
        List.take_append_drop] at hr
  | case2 field h =>
    refine rest field (Nat.lt_of_not_le fun hl => ?_)
    rcases field with _ | ⟨a, _ | ⟨b, _ | ⟨c, _ | ⟨d, body⟩⟩⟩⟩
    case cons.cons.cons.cons => exact h a b c d body rfl
    all_goals simp at hl

/-- **Dropping the records for large entries twice is dropping them once.** -/
theorem stripLargeEntry_stripLargeEntry (extra : Bytes) :
    stripLargeEntry (stripLargeEntry extra) = stripLargeEntry extra := by
  induction extra using field_induction with
  | rest field h => rw [stripLargeEntry_of_length_lt h, stripLargeEntry_of_length_lt h]
  | short a b c d body h =>
    rw [stripLargeEntry_of_short h, kept]
    split_ifs with hid
    · exact stripLargeEntry_of_length_lt (by decide)
    · rw [stripLargeEntry_of_short h, kept, if_neg hid]
  | record r tail h ih =>
    rw [stripLargeEntry_append h, kept]
    split_ifs with hid
    · exact ih
    · rw [stripLargeEntry_append h, ih, kept, if_neg hid]

theorem shortRecord?_append {r : Bytes} (h : IsRecord r) (tail : Bytes) :
    shortRecord? (r ++ tail) = shortRecord? tail := by
  obtain ⟨a, b, c, d, body, rfl, hl⟩ := h
  simp only [List.cons_append]
  rw [shortRecord?]
  simp only [List.length_append, ← hl, List.drop_left]
  exact if_neg (by omega)

/-- **A sound field stays sound.** -/
theorem shortRecord?_stripLargeEntry {extra : Bytes} (h : shortRecord? extra = none) :
    shortRecord? (stripLargeEntry extra) = none := by
  induction extra using field_induction with
  | rest field hl => rwa [stripLargeEntry_of_length_lt hl]
  | short a b c d body hs =>
    rw [shortRecord?] at h
    simp only [if_pos hs] at h
    exact absurd h (Option.some_ne_none _)
  | record r tail hr ih =>
    rw [shortRecord?_append hr] at h
    rw [stripLargeEntry_append hr, kept]
    split_ifs with hid
    · exact ih h
    · rw [shortRecord?_append hr, ih h]

/-- **A sound field is a sequence of records and a few bytes.** The records for large entries are
dropped from it, and nothing else is. -/
theorem exists_records {extra : Bytes} (h : shortRecord? extra = none) :
    ∃ (records : List Bytes) (rest : Bytes), (∀ r ∈ records, IsRecord r) ∧ rest.length < 4 ∧
      extra = records.flatten ++ rest ∧
      stripLargeEntry extra =
        (records.filter fun r => recordId r ≠ largeEntryId).flatten ++ rest := by
  induction extra using field_induction with
  | rest field hl =>
    exact ⟨[], field, nofun, hl, rfl, stripLargeEntry_of_length_lt hl⟩
  | short a b c d body hs =>
    rw [shortRecord?] at h
    simp only [if_pos hs] at h
    exact absurd h (Option.some_ne_none _)
  | record r tail hr ih =>
    rw [shortRecord?_append hr] at h
    obtain ⟨records, rest, hrec, hrest, rfl, hstrip⟩ := ih h
    refine ⟨r :: records, rest, ?_, hrest, ?_, ?_⟩
    · exact List.forall_mem_cons.2 ⟨hr, hrec⟩
    · rw [List.flatten_cons, List.append_assoc]
    · rw [stripLargeEntry_append hr, hstrip, kept, List.filter_cons]
      by_cases hid : recordId r = largeEntryId <;> simp [hid]

/-! ## Entries -/

namespace Entry

theorem refuse_eq_ok {condition : Prop} [Decidable condition] {fault : EntryFault} {u : Unit} :
    refuse condition fault = .ok u ↔ ¬ condition := by
  rw [refuse]
  split_ifs with h
  · exact iff_of_false nofun (not_not.2 h)
  · exact iff_of_true rfl h

theorem refuse_eq_error {condition : Prop} [Decidable condition] {fault cause : EntryFault} :
    refuse condition fault = .error cause ↔ condition ∧ cause = fault := by
  rw [refuse]
  split_ifs with h
  · rw [Except.error.injEq, eq_comm, and_iff_right h]
  · exact iff_of_false nofun fun hc => h hc.1

theorem checkDamage_eq_ok {e : Entry} {stage : Damage.Stage} {u : Unit} :
    e.checkDamage stage = .ok u ↔ e.damageAt stage = none := by
  rw [checkDamage]
  cases e.damageAt stage with
  | none => exact iff_of_true rfl rfl
  | some damage => exact iff_of_false error_ne_ok (Option.some_ne_none damage)

theorem checkDamage_eq_error {e : Entry} {stage : Damage.Stage} {cause : EntryFault} :
    e.checkDamage stage = .error cause ↔
      ∃ damage, e.damageAt stage = some damage ∧ cause = .damaged damage := by
  rw [checkDamage]
  cases e.damageAt stage with
  | none => exact iff_of_false nofun nofun
  | some damage => simp [eq_comm]

theorem damage_of_damageAt {e : Entry} {stage : Damage.Stage} {damage : Damage}
    (h : e.damageAt stage = some damage) : e.damage = some damage :=
  (Option.filter_eq_some_iff.1 h).1

theorem damage_eq_none_iff {e : Entry} : e.damage = none ↔ ∀ stage, e.damageAt stage = none := by
  constructor
  · intro h stage
    rw [damageAt, h]
    rfl
  · intro h
    cases hd : e.damage with
    | none => rfl
    | some damage =>
      have shown := h damage.stage
      rw [damageAt, hd, Option.filter_some, if_pos (decide_eq_true rfl)] at shown
      exact absurd shown (Option.some_ne_none damage)

/-- An entry whose data can be read. -/
structure Readable (e : Entry) : Prop where
  undamaged : e.damage = none
  not_patched : ¬ e.hasFlag 5
  not_strongly_encrypted : ¬ e.hasFlag 6
  not_encrypted : ¬ e.hasFlag 0
  known : e.method ∈ knownMethods
  intact : checksum e.data = e.declared

theorem contents_eq_ok {e : Entry} {label : String} {data : Bytes} :
    e.contents label = .ok data ↔ e.Readable ∧ data = e.data := by
  simp only [contents, bind_eq_ok, checkDamage_eq_ok, refuse_eq_ok, not_not, exists_const]
  constructor
  · rintro ⟨header, patched, strong, name, plain, known, shown, intact, h⟩
    have undamaged : ∀ stage, e.damageAt stage = none
      | .header => header
      | .name => name
      | .data => shown
    exact ⟨⟨damage_eq_none_iff.2 undamaged, patched, strong, plain, known, intact⟩,
      (Except.ok.inj h).symm⟩
  · rintro ⟨⟨undamaged, patched, strong, plain, known, intact⟩, rfl⟩
    have shown := damage_eq_none_iff.1 undamaged
    exact ⟨shown _, patched, strong, shown _, plain, known, shown _, intact, rfl⟩

theorem damage_of_contents {e : Entry} {label : String} {damage : Damage}
    (h : e.contents label = .error (.damaged damage)) : e.damage = some damage := by
  simp only [contents, bind_eq_error, checkDamage_eq_error, refuse_eq_error, reduceCtorEq,
    and_false, false_or, EntryFault.damaged.injEq, exists_eq_right'] at h
  rcases h with header | ⟨-, -, -, -, -, -, name | ⟨-, -, -, -, -, -, shown | ⟨-, -, -, h⟩⟩⟩
  · exact damage_of_damageAt header
  · exact damage_of_damageAt name
  · exact damage_of_damageAt shown
  · exact h.elim

theorem not_readable {e : Entry} {label : String} {cause : EntryFault}
    (h : e.contents label = .error cause) : ¬ e.Readable := by
  intro hr
  rw [contents_eq_ok.2 ⟨hr, rfl⟩] at h
  cases h

/-- An entry that can be written. -/
structure Storable (e : Entry) : Prop where
  known : e.method ∈ knownMethods
  named : (encodeUtf8 e.name.toList).length ≤ maxNameSize

theorem write_eq_ok {e e' : Entry} {data : Bytes} :
    e.write data = .ok e' ↔ e.Storable ∧ e' = e.withData data := by
  simp only [write, bind_eq_ok, refuse_eq_ok, not_not, Nat.not_lt, exists_const]
  constructor
  · rintro ⟨known, named, h⟩
    exact ⟨⟨known, named⟩, (Except.ok.inj h).symm⟩
  · rintro ⟨⟨known, named⟩, rfl⟩
    exact ⟨known, named, rfl⟩

/-- What cannot be written has an unknown method, or else a name that is too long. -/
theorem write_eq_error {e : Entry} {data : Bytes} {cause : EntryFault} :
    e.write data = .error cause ↔ e.method ∉ knownMethods ∧ cause = .unknownMethod ∨
      e.method ∈ knownMethods ∧ maxNameSize < (encodeUtf8 e.name.toList).length ∧
        cause = .nameTooLong := by
  simp only [write, bind_eq_error, refuse_eq_error, refuse_eq_ok, not_not, exists_const,
    reduceCtorEq, and_false, or_false]

theorem storable_withData {e : Entry} (h : e.Storable) (data : Bytes) :
    (e.withData data).Storable :=
  ⟨h.known, h.named⟩

theorem readable_withData {e : Entry} (h : e.method ∈ knownMethods) (data : Bytes) :
    (e.withData data).Readable :=
  ⟨rfl, by simp [hasFlag, withData], by simp [hasFlag, withData], by simp [hasFlag, withData], h,
    rfl⟩

theorem withData_withData (e : Entry) (data data' : Bytes) :
    (e.withData data).withData data' = e.withData data' := by
  have attributes : (if (e.withData data).attributes = 0 then defaultAttributes
      else (e.withData data).attributes) = (e.withData data').attributes := by
    simp only [withData]
    split_ifs <;> simp_all [defaultAttributes]
  simp only [withData] at attributes ⊢
  rw [attributes, stripLargeEntry_stripLargeEntry]

theorem opened_eq_ok {e e' : Entry} :
    e.opened = .ok e' ↔ shortRecord? e.extra = none ∧ e' = e.cutName := by
  rw [opened]
  cases h : shortRecord? e.extra with
  | none => exact ⟨fun he => ⟨rfl, (Except.ok.inj he).symm⟩, fun he => congrArg _ he.2.symm⟩
  | some record =>
    exact ⟨fun he => absurd he error_ne_ok, fun he => absurd he.1 (Option.some_ne_none record)⟩

theorem cutName_cutName (e : Entry) : e.cutName.cutName = e.cutName := by
  simp only [cutName, String.toList_ofList, List.takeWhile_idem]

theorem opened_of_opened {e e' : Entry} (h : e.opened = .ok e') : e'.opened = .ok e' := by
  obtain ⟨hs, rfl⟩ := opened_eq_ok.1 h
  exact opened_eq_ok.2 ⟨hs, (cutName_cutName e).symm⟩

theorem opened_withData {e : Entry} (h : e.opened = .ok e) (data : Bytes) :
    (e.withData data).opened = .ok (e.withData data) := by
  obtain ⟨hs, hn⟩ := opened_eq_ok.1 h
  have hname : e.name = e.cutName.name := congrArg Entry.name hn
  refine opened_eq_ok.2 ⟨shortRecord?_stripLargeEntry hs, ?_⟩
  simp only [withData, cutName] at hname ⊢
  rw [← hname]

end Entry

/-! ## Archives -/

theorem opened_eq_ok {a t : Archive} :
    a.opened = .ok t ↔
      t.comment = a.comment ∧ List.Forall₂ (fun e e' => e.opened = .ok e') a.entries t.entries := by
  rw [opened, bind_eq_ok]
  constructor
  · rintro ⟨entries, h, ht⟩
    obtain rfl := Except.ok.inj ht
    exact ⟨rfl, mapM_eq_ok.1 h⟩
  · rintro ⟨hc, h⟩
    exact ⟨t.entries, mapM_eq_ok.2 h, by rw [← hc]⟩

theorem opened_of_mem {a t : Archive} (h : a.opened = .ok t) :
    ∀ e ∈ t.entries, e.opened = .ok e := by
  intro e he
  obtain ⟨raw, -, hr⟩ := exists_of_mem_right (opened_eq_ok.1 h).2 e he
  exact Entry.opened_of_opened hr

theorem opened_self {a : Archive} (h : ∀ e ∈ a.entries, e.opened = .ok e) : a.opened = .ok a :=
  opened_eq_ok.2 ⟨rfl, List.forall₂_same.2 h⟩

theorem find?_rel {R : Entry → Entry → Prop} (names : ∀ e e', R e e' → e'.name = e.name)
    {es es' : List Entry} (h : List.Forall₂ R es es') (name : String) :
    Option.Rel R (es.find? fun e => e.name = name) (es'.find? fun e => e.name = name) := by
  induction h with
  | nil => exact Option.Rel.none
  | @cons e e' _ _ he _ ih =>
    rw [List.find?_cons, List.find?_cons, names e e' he]
    cases decide (e.name = name) with
    | true => exact Option.Rel.some he
    | false => exact ih

section

variable {R : Entry → Entry → Prop} {a b : Archive} {name : String}

/-- Where two archives have the same names at the same places, a name stands for entries at the same
place. -/
theorem find?_forall₂ (names : ∀ e e', R e e' → e'.name = e.name)
    (h : List.Forall₂ R a.entries b.entries) (name : String) :
    Option.Rel R (a.find? name) (b.find? name) :=
  find?_rel names (List.forall₂_reverse_iff.2 h) name

theorem find?_eq_none_iff (names : ∀ e e', R e e' → e'.name = e.name)
    (h : List.Forall₂ R a.entries b.entries) : a.find? name = none ↔ b.find? name = none := by
  have hr := find?_forall₂ names h name
  generalize a.find? name = found at hr ⊢
  generalize b.find? name = found' at hr ⊢
  cases hr with
  | none => exact Iff.rfl
  | some _ => exact iff_of_false (Option.some_ne_none _) (Option.some_ne_none _)

theorem exists_find?_right (names : ∀ e e', R e e' → e'.name = e.name)
    (h : List.Forall₂ R a.entries b.entries) {e : Entry} (he : a.find? name = some e) :
    ∃ e', b.find? name = some e' ∧ R e e' := by
  have hr := find?_forall₂ names h name
  rw [he] at hr
  generalize b.find? name = found at hr ⊢
  cases hr with
  | some hr => exact ⟨_, rfl, hr⟩

theorem exists_find?_left (names : ∀ e e', R e e' → e'.name = e.name)
    (h : List.Forall₂ R a.entries b.entries) {e' : Entry} (he : b.find? name = some e') :
    ∃ e, a.find? name = some e ∧ R e e' := by
  have hr := find?_forall₂ names h name
  rw [he] at hr
  generalize a.find? name = found at hr ⊢
  cases hr with
  | some hr => exact ⟨_, rfl, hr⟩

end

theorem contains_iff {a : Archive} {name : String} :
    a.contains name ↔ ∃ e ∈ a.entries, e.name = name := by
  simp [contains]

theorem find?_eq_getLast? (a : Archive) (name : String) :
    a.find? name = (a.entries.filter fun e => e.name = name).getLast? := by
  rw [find?, ← List.head?_filter, List.filter_reverse, List.head?_reverse]

theorem mem_of_find? {a : Archive} {name : String} {e : Entry} (h : a.find? name = some e) :
    e ∈ a.entries :=
  List.mem_reverse.1 (List.mem_of_find?_eq_some h)

theorem name_of_find? {a : Archive} {name : String} {e : Entry} (h : a.find? name = some e) :
    e.name = name := by
  simpa using List.find?_some h

end SlideMerge.Archive

namespace SlideMerge.Deck

open Archive Workbook

/-! ## Files -/

theorem opened_of_openTemplate {template : Upload} {t : Archive}
    (h : openTemplate template = .ok t) : ∀ e ∈ t.entries, e.opened = .ok e := by
  obtain ⟨found, -, ht⟩ := bind_eq_ok.1 h
  exact opened_of_mem ht

/-- **An archive that is found as it is opens as it is,** if its entries do. -/
theorem openTemplate_archive {a : Archive} (found : a.asFound = .ok a)
    (he : ∀ e ∈ a.entries, e.opened = .ok e) : openTemplate (.archive a) = .ok a :=
  bind_eq_ok.2 ⟨a, found, opened_self he⟩

end SlideMerge.Deck
