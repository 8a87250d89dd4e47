/-!
# Totals

The sum of numbers. Lengths, counts and days are added up by it.
-/

namespace SlideMerge.Numeric

/-- The sum of numbers. -/
def total (ns : List Nat) : Nat :=
  ns.foldr (· + ·) 0

@[simp] theorem total_nil : total [] = 0 := rfl

@[simp] theorem total_cons (n : Nat) (ns : List Nat) : total (n :: ns) = n + total ns := rfl

@[simp] theorem total_append (ms ns : List Nat) : total (ms ++ ns) = total ms + total ns := by
  induction ms with
  | nil => simp
  | cons m ms ih => simp [ih, Nat.add_assoc]

@[simp] theorem total_replicate (k n : Nat) : total (List.replicate k n) = k * n := by
  induction k with
  | zero => simp
  | succ k ih => rw [List.replicate_succ, total_cons, ih, Nat.succ_mul, Nat.add_comm]

theorem total_perm {ms ns : List Nat} (h : ms.Perm ns) : total ms = total ns := by
  induction h with
  | nil => rfl
  | cons n _ ih => rw [total_cons, total_cons, ih]
  | swap m n ns => simp only [total_cons, Nat.add_left_comm]
  | trans _ _ ih ih' => rw [ih, ih']

end SlideMerge.Numeric
