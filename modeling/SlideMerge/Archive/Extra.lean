import SlideMerge.Text.Utf8

/-!
# Extra fields

The extra field of an entry is a sequence of records: an id and a size, two bytes each with the
less significant one first, and then so many bytes. A field is sound if every record has the bytes
that it declares; up to three bytes after the last record are too few for another one and stand
for themselves. Splitting a field takes an unsound last record as it is, however short.
-/

namespace SlideMerge.Archive

open Text

/-- The number of two bytes, the less significant one first. -/
def word (low high : UInt8) : Nat :=
  low.toNat + 256 * high.toNat

/-- The records of an extra field and the bytes after the last one. -/
def splitRecords : Bytes → List Bytes × Bytes
  | a :: b :: c :: d :: body =>
    let size := word c d
    let (records, rest) := splitRecords (body.drop size)
    ((a :: b :: c :: d :: body.take size) :: records, rest)
  | short => ([], short)
termination_by field => field.length
decreasing_by simp only [List.length_cons, List.length_drop]; omega

def recordId : Bytes → Nat
  | a :: b :: _ => word a b
  | _ => 0

/-- The id of the records for entries of more than four gigabytes. -/
def largeEntryId : Nat := 0x0001

/-- The extra field without the records for large entries. Who writes an archive adds these anew
where they are needed. -/
def stripLargeEntry (extra : Bytes) : Bytes :=
  let (records, rest) := splitRecords extra
  (records.filter fun r => recordId r ≠ largeEntryId).flatten ++ rest

/-- A record that declares more bytes than there are: its id and the declared size. -/
structure ShortRecord where
  id : Nat
  size : Nat
  deriving DecidableEq, Repr

/-- The record of an extra field that is too short, if the field is not sound. -/
def shortRecord? : Bytes → Option ShortRecord
  | a :: b :: c :: d :: body =>
    let size := word c d
    if body.length < size then some ⟨word a b, size⟩ else shortRecord? (body.drop size)
  | _ => none
termination_by field => field.length
decreasing_by simp only [List.length_cons, List.length_drop]; omega

@[simp] theorem splitRecords_nil : splitRecords [] = ([], []) := by
  simp [splitRecords]

theorem flatten_splitRecords (extra : Bytes) :
    (splitRecords extra).1.flatten ++ (splitRecords extra).2 = extra := by
  fun_induction splitRecords extra with
  | case1 a b c d body size records rest h ih =>
    rw [h] at ih
    simp [ih, List.append_assoc]
  | case2 short => rfl

end SlideMerge.Archive
