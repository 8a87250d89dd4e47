import SlideMerge.Proofs.Archive

/-!
# The records of an extra field

The extra field of an entry is divided into records and a few bytes after the last one (`Divides`).
A record has the bytes that it declares; only the last one may be cut off, and then nothing stands
behind it. Where a record ends is said by its own head, so every field is divided in exactly one way
(`divides_splitRecords`, `Divides.unique`), and bytes within a record are never taken for the head
of another one.

**Dropping the records for large entries** leaves the other records as they were, in their order,
and what is left is divided into just these (`Divides.strip`): what stood before and behind a
dropped record stays apart, for a record says where it ends whatever comes next. All else follows
from that.

Main result: `stripLargeEntry_exact`.
-/

namespace SlideMerge.Archive

open Text

/-! ## Division into records -/

/-- A record that declares more bytes than it has. -/
def IsCutOff (r : Bytes) : Prop :=
  ∃ a b c d body, r = a :: b :: c :: d :: body ∧ body.length < word c d

/-- The records of a field and the bytes after the last one. -/
inductive Divides : Bytes → List Bytes → Bytes → Prop
  /-- Up to three bytes are no record. -/
  | rest {rest : Bytes} (short : rest.length < 4) : Divides rest [] rest
  /-- The last record may be cut off. -/
  | cutOff {r : Bytes} (h : IsCutOff r) : Divides r [r] []
  | record {r tail rest : Bytes} {records : List Bytes} (h : IsRecord r)
      (following : Divides tail records rest) : Divides (r ++ tail) (r :: records) rest

/-- Complete records and at most three bytes after the last one. -/
def IsSound (field : Bytes) : Prop :=
  ∃ (records : List Bytes) (rest : Bytes),
    (∀ r ∈ records, IsRecord r) ∧ rest.length < 4 ∧ field = records.flatten ++ rest

def keptRecords (records : List Bytes) : List Bytes :=
  records.filter fun r => recordId r ≠ largeEntryId

theorem keptRecords_cons_of_eq {r : Bytes} (h : recordId r = largeEntryId) (records : List Bytes) :
    keptRecords (r :: records) = keptRecords records :=
  List.filter_cons_of_neg (by simpa using h)

theorem keptRecords_cons_of_ne {r : Bytes} (h : recordId r ≠ largeEntryId) (records : List Bytes) :
    keptRecords (r :: records) = r :: keptRecords records :=
  List.filter_cons_of_pos (by simpa using h)

theorem ne_of_mem_keptRecords {r : Bytes} {records : List Bytes} (h : r ∈ keptRecords records) :
    recordId r ≠ largeEntryId :=
  of_decide_eq_true (List.of_mem_filter (p := fun r => decide (recordId r ≠ largeEntryId)) h)

theorem splitRecords_of_cutOff {r : Bytes} (h : IsCutOff r) : splitRecords r = ([r], []) := by
  obtain ⟨a, b, c, d, body, rfl, short⟩ := h
  exact splitRecords_of_short short

/-- **Every field is divided into records.** -/
theorem divides_splitRecords (field : Bytes) :
    Divides field (splitRecords field).1 (splitRecords field).2 := by
  induction field using field_induction with
  | rest field short =>
    rw [splitRecords_of_length_lt short]
    exact .rest short
  | short a b c d body short =>
    rw [splitRecords_of_short short]
    exact .cutOff ⟨a, b, c, d, body, rfl, short⟩
  | record r tail h ih =>
    rw [splitRecords_append h]
    exact .record h ih

namespace Divides

variable {field rest : Bytes} {records : List Bytes}

/-- **Splitting a field finds its division**, so there is only one. -/
theorem splitRecords_eq (h : Divides field records rest) :
    splitRecords field = (records, rest) := by
  induction h with
  | rest short => exact splitRecords_of_length_lt short
  | cutOff h => exact splitRecords_of_cutOff h
  | record h following ih => rw [splitRecords_append h, ih]

theorem unique {rest' : Bytes} {records' : List Bytes} (h : Divides field records rest)
    (h' : Divides field records' rest') : records' = records ∧ rest' = rest :=
  Prod.mk.inj (h'.splitRecords_eq.symm.trans h.splitRecords_eq)

theorem flatten_append (h : Divides field records rest) : records.flatten ++ rest = field := by
  have whole := flatten_splitRecords field
  rwa [h.splitRecords_eq] at whole

theorem stripLargeEntry_eq (h : Divides field records rest) :
    stripLargeEntry field = (keptRecords records).flatten ++ rest := by
  rw [stripLargeEntry, h.splitRecords_eq]
  rfl

/-- **What is left of a field is divided into the records that are kept.** -/
theorem strip (h : Divides field records rest) :
    Divides (stripLargeEntry field) (keptRecords records) rest := by
  rw [h.stripLargeEntry_eq]
  induction h with
  | rest short => exact .rest short
  | @cutOff r h =>
    -- Nothing stands behind a record that is cut off, so nothing is left if it goes.
    by_cases large : recordId r = largeEntryId
    · rw [keptRecords_cons_of_eq large]
      exact .rest (by decide)
    · rw [keptRecords_cons_of_ne large]
      have alone : (r :: keptRecords []).flatten ++ [] = r := by
        rw [List.append_nil, keptRecords, List.filter_nil, List.flatten_singleton]
      rw [alone]
      exact .cutOff h
  | @record r tail rest records h following ih =>
    by_cases large : recordId r = largeEntryId
    · rw [keptRecords_cons_of_eq large]
      exact ih
    · rw [keptRecords_cons_of_ne large, List.flatten_cons, List.append_assoc]
      exact .record h ih

/-- **A field is left as it is if none of its records is for large entries**, for what is left of it
is divided into the records that are kept. -/
theorem stripLargeEntry_eq_self_iff (h : Divides field records rest) :
    stripLargeEntry field = field ↔ ∀ r ∈ records, recordId r ≠ largeEntryId := by
  constructor
  · intro same r hr
    have again := h.strip
    rw [same] at again
    obtain ⟨all, -⟩ := h.unique again
    rw [← all] at hr
    exact ne_of_mem_keptRecords hr
  · intro other
    have all : keptRecords records = records :=
      List.filter_eq_self.2 fun r hr => decide_eq_true (other r hr)
    rw [h.stripLargeEntry_eq, all, h.flatten_append]

end Divides

/-! ## Complete records -/

theorem divides_of_records {records : List Bytes} (h : ∀ r ∈ records, IsRecord r)
    {tail rest : Bytes}
    {others : List Bytes} (following : Divides tail others rest) :
    Divides (records.flatten ++ tail) (records ++ others) rest := by
  induction records with
  | nil => exact following
  | cons r records ih =>
    obtain ⟨first, more⟩ := List.forall_mem_cons.1 h
    rw [List.flatten_cons, List.append_assoc, List.cons_append]
    exact .record first (ih more)

/-- **Behind complete records a field is stripped by itself.** -/
theorem stripLargeEntry_records_append {records : List Bytes} (h : ∀ r ∈ records, IsRecord r)
    (tail : Bytes) :
    stripLargeEntry (records.flatten ++ tail) =
      stripLargeEntry records.flatten ++ stripLargeEntry tail := by
  have nothing : Divides [] [] [] := .rest (by decide)
  have alone := divides_of_records h nothing
  have before := divides_of_records h (divides_splitRecords tail)
  rw [List.append_nil, List.append_nil] at alone
  rw [before.stripLargeEntry_eq, alone.stripLargeEntry_eq,
    (divides_splitRecords tail).stripLargeEntry_eq, keptRecords, List.filter_append,
    List.flatten_append, List.append_nil, List.append_assoc]
  rfl

theorem isSound_stripLargeEntry {field : Bytes} (h : IsSound field) :
    IsSound (stripLargeEntry field) := by
  obtain ⟨records, rest, complete, short, rfl⟩ := h
  have divided := divides_of_records complete (.rest short)
  rw [List.append_nil] at divided
  exact ⟨keptRecords records, rest, fun r hr => complete r (List.mem_of_mem_filter hr), short,
    divided.stripLargeEntry_eq⟩

/-- **The extra fields of an opened archive are sound.** -/
theorem isSound_of_opened {a t : Archive} (h : a.opened = .ok t) :
    ∀ e ∈ t.entries, IsSound e.extra := by
  intro e he
  obtain ⟨sound, -⟩ := Entry.opened_eq_ok.1 (opened_of_mem h e he)
  obtain ⟨records, rest, complete, short, parts, -⟩ := exists_records sound
  exact ⟨records, rest, complete, short, parts⟩

/-- **Dropping the records for large entries is exact.** Every field is divided into records and a
few bytes in exactly one way. What is left of it is the other records in their order and these
bytes, divided into just those, so none of the records is for large entries, stripping once more
changes nothing, and the field is as it was if and only if it had no such record. Behind complete
records a field is stripped by itself, and a record of another kind stays whatever its bytes look
like. Sound fields, which are those of archives that can be opened, stay sound. -/
theorem stripLargeEntry_exact :
    (∀ field, ∃ records rest, Divides field records rest ∧
      ∀ records' rest', Divides field records' rest' → records' = records ∧ rest' = rest) ∧
    (∀ field records rest, Divides field records rest →
      stripLargeEntry field = (records.filter fun r => recordId r ≠ largeEntryId).flatten ++ rest ∧
      (stripLargeEntry field = field ↔ ∀ r ∈ records, recordId r ≠ largeEntryId)) ∧
    (∀ field records rest, Divides (stripLargeEntry field) records rest →
      ∀ r ∈ records, recordId r ≠ largeEntryId) ∧
    (∀ field, stripLargeEntry (stripLargeEntry field) = stripLargeEntry field) ∧
    (∀ records : List Bytes, (∀ r ∈ records, IsRecord r) → ∀ tail,
      stripLargeEntry (records.flatten ++ tail) =
        stripLargeEntry records.flatten ++ stripLargeEntry tail) ∧
    (∀ a b c d body tail, body.length = word c d → word a b ≠ largeEntryId →
      stripLargeEntry (a :: b :: c :: d :: (body ++ tail)) =
        a :: b :: c :: d :: (body ++ stripLargeEntry tail)) ∧
    (∀ field, IsSound field → IsSound (stripLargeEntry field)) ∧
    ∀ a t : Archive, a.opened = .ok t → ∀ e ∈ t.entries, IsSound e.extra := by
  refine ⟨?_, ?_, ?_, stripLargeEntry_stripLargeEntry, ?_, ?_, ?_, ?_⟩
  · intro field
    have divided := divides_splitRecords field
    exact ⟨_, _, divided, fun _ _ => divided.unique⟩
  · intro field records rest divided
    exact ⟨divided.stripLargeEntry_eq, divided.stripLargeEntry_eq_self_iff⟩
  · intro field records rest left r hr
    obtain ⟨rfl, -⟩ := (divides_splitRecords field).strip.unique left
    exact ne_of_mem_keptRecords hr
  · intro records complete tail
    exact stripLargeEntry_records_append complete tail
  · intro a b c d body tail size other
    have complete : IsRecord (a :: b :: c :: d :: body) := ⟨a, b, c, d, body, rfl, size⟩
    have different : recordId (a :: b :: c :: d :: body) ≠ largeEntryId := other
    have left := stripLargeEntry_append complete tail
    rwa [kept, if_neg different] at left
  · intro field sound
    exact isSound_stripLargeEntry sound
  · intro a t opened
    exact isSound_of_opened opened

/-- A record whose bytes look like the head of one for large entries. -/
def lookalikeRecord : Bytes :=
  [0x75, 0x78, 4, 0, 1, 0, 2, 0]

/-- A record for large entries. -/
def largeRecord : Bytes :=
  [1, 0, 2, 0, 7, 7]

/-- An archive with one entry, whose extra field has both and one more byte. -/
def taggedArchive : Archive where
  comment := []
  entries :=
    [⟨"slide", Stamp.first, 0, 0, 0, [], [lookalikeRecord, largeRecord].flatten ++ [9], 0, 0,
    [], none⟩]

/-- The record for large entries goes, and the other one and the byte stay. -/
theorem stripLargeEntry_exact_lookalike :
    Divides ([lookalikeRecord, largeRecord].flatten ++ [9]) [lookalikeRecord, largeRecord] [9] ∧
    Divides (lookalikeRecord ++ [9]) [lookalikeRecord] [9] ∧
      recordId lookalikeRecord ≠ largeEntryId ∧
    taggedArchive.opened = .ok taggedArchive ∧
    stripLargeEntry ([lookalikeRecord, largeRecord].flatten ++ [9]) = lookalikeRecord ++ [9] ∧
    stripLargeEntry [lookalikeRecord, largeRecord].flatten ++ stripLargeEntry [9] =
      lookalikeRecord ++ [9] ∧
    stripLargeEntry (lookalikeRecord ++ (largeRecord ++ [9])) =
      lookalikeRecord ++ stripLargeEntry (largeRecord ++ [9]) ∧
    IsSound (lookalikeRecord ++ [9]) := by
  have lookalike : IsRecord lookalikeRecord := ⟨_, _, _, _, _, rfl, rfl⟩
  have large : IsRecord largeRecord := ⟨_, _, _, _, _, rfl, rfl⟩
  have complete : ∀ r ∈ [lookalikeRecord, largeRecord], IsRecord r :=
    List.forall_mem_cons.2 ⟨lookalike, List.forall_mem_singleton.2 large⟩
  have divided : Divides ([lookalikeRecord, largeRecord].flatten ++ [9])
      [lookalikeRecord, largeRecord] [9] :=
    divides_of_records complete (.rest (by decide))
  have intact : shortRecord? ([lookalikeRecord, largeRecord].flatten ++ [9]) = none := by
    have nothing : shortRecord? [9] = none := by decide +kernel
    rw [List.flatten_cons, List.append_assoc, shortRecord?_append lookalike, List.flatten_singleton,
      shortRecord?_append large, nothing]
  have opened : taggedArchive.opened = .ok taggedArchive :=
    opened_self (List.forall_mem_singleton.2 (Entry.opened_eq_ok.2 ⟨intact, by decide⟩))
  obtain ⟨-, exact, others, -, behind, payload, sound, archives⟩ := stripLargeEntry_exact
  have left : stripLargeEntry ([lookalikeRecord, largeRecord].flatten ++ [9]) =
      lookalikeRecord ++ [9] :=
    (exact _ _ _ divided).1
  have dividedLeft : Divides (lookalikeRecord ++ [9]) [lookalikeRecord] [9] :=
    .record lookalike (.rest (by decide))
  refine ⟨divided, dividedLeft, ?_, opened, left, (behind _ complete [9]).symm.trans left, ?_, ?_⟩
  · rw [← left] at dividedLeft
    exact others _ _ _ dividedLeft _ List.mem_cons_self
  · exact payload _ _ _ _ [1, 0, 2, 0] (largeRecord ++ [9]) rfl (by decide)
  · have kept := sound _ (archives _ _ opened _ List.mem_cons_self)
    exact left ▸ kept

end SlideMerge.Archive
