/-!
# Rounding to the nearest integer

A half goes to the even neighbour. Every rounding of the library, of doubles and of decimals, is
this one at some scale.
-/

namespace SlideMerge.Numeric

/-- The integer nearest to `q`, the even one of two. -/
def roundEven (q : Rat) : Int :=
  let below := q.floor
  let excess := q - below
  if excess < 1 / 2 then below
  else if 1 / 2 < excess then below + 1
  else if below % 2 = 0 then below
  else below + 1

@[simp] theorem roundEven_intCast (n : Int) : roundEven n = n := by
  have h : (0 : Rat) < 1 / 2 := by decide +kernel
  simp only [roundEven, Rat.floor_intCast, Rat.sub_self, if_pos h]

/-- The result is one of the two integers around `q`. -/
theorem floor_le_roundEven (q : Rat) : q.floor ≤ roundEven q ∧ roundEven q ≤ q.floor + 1 := by
  simp only [roundEven]
  split
  · omega
  · split
    · omega
    · split <;> omega

/-- The integer part of `q`, without its fraction. -/
def truncate (q : Rat) : Int :=
  if q < 0 then q.ceil else q.floor

end SlideMerge.Numeric
