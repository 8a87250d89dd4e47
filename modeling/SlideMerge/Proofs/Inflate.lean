import Mathlib.Algebra.Group.Nat.Defs
import SlideMerge.Archive.Layout

/-!
# What is laid out in blocks is unpacked again

The layout of an archive cuts data into blocks that hold bytes as they are.

**Theorem (`inflate_storedBlocks`).** Unpacking such blocks gives the data and comes to its end.

Bits are read from the least significant one on, so the bits of a number in so many bytes are its
first bits (`bitsOf_fieldBytes`), and reading so many bits gives the number back (`number_bits`).
From this one lemma follow the length of a block and its bytes. The head of a block fills one byte,
of which five bits are left over, and the length begins with the next one; since whole bytes follow,
that is where the number of bits left is divisible by eight (`readStoredLength_block`). A run of
blocks is an induction over the data.
-/

namespace SlideMerge.Archive

open Text BitReader

/-! ## Bits and numbers -/

/-- The bits of a number, up to a number of them. -/
def firstBits (width n : Nat) : List Bool :=
  (List.range width).map n.testBit

theorem firstBits_succ (width n : Nat) :
    firstBits (width + 1) n = n.testBit 0 :: firstBits width (n / 2) := by
  simp only [firstBits, List.range_succ_eq_map, List.map_cons, List.map_map]
  congr 2
  funext i
  exact Nat.testBit_succ n i

theorem firstBits_add (v w n : Nat) :
    firstBits (v + w) n = firstBits v n ++ firstBits w (n / 2 ^ v) := by
  simp only [firstBits, List.range_add, List.map_append, List.map_map]
  congr 2
  funext i
  rw [Function.comp_apply, Nat.testBit_div_two_pow, Nat.add_comm]

theorem firstBits_mod (width n : Nat) : firstBits width (n % 2 ^ width) = firstBits width n := by
  refine List.map_congr_left fun i hi => ?_
  rw [Nat.testBit_mod_two_pow, decide_eq_true (List.mem_range.1 hi), Bool.true_and]

theorem bitsOf_cons (b : UInt8) (bytes : Bytes) :
    bitsOf (b :: bytes) = firstBits 8 b.toNat ++ bitsOf bytes := rfl

@[simp] theorem bitsOf_append (xs ys : Bytes) : bitsOf (xs ++ ys) = bitsOf xs ++ bitsOf ys :=
  List.flatMap_append

theorem length_bitsOf (bytes : Bytes) : (bitsOf bytes).length = 8 * bytes.length := by
  induction bytes with
  | nil => rfl
  | cons b bytes ih =>
    rw [bitsOf_cons, List.length_append, ih, List.length_cons]
    simp only [firstBits, List.length_map, List.length_range]
    omega

theorem bitsOf_fieldBytes (width n : Nat) :
    bitsOf (fieldBytes width n) = firstBits (8 * width) n := by
  induction width generalizing n with
  | zero => rfl
  | succ width ih =>
    have low : (UInt8.ofNat (n % 256)).toNat = n % 2 ^ 8 := by
      rw [UInt8.toNat_ofNat']
      exact Nat.mod_mod n 256
    have rest : n / 256 = n / 2 ^ 8 := rfl
    rw [fieldBytes, bitsOf_cons, low, firstBits_mod, ih, rest, ← firstBits_add, Nat.mul_succ,
      Nat.add_comm]

/-- A reader that goes on after another one, begins where that one has come to. -/
theorem bind_of_ok {α β : Type} {r : BitReader α} {f : α → BitReader β} {bits rest : List Bool}
    {a : α} (h : r bits = .ok (a, rest)) : (r >>= f) bits = f a rest := by
  change (r bits >>= fun read => f read.1 read.2) = _
  rw [h]
  rfl

/-- **Reading the first bits of a number gives the number back,** up to those that are not read. -/
theorem number_bits (width n : Nat) (rest : List Bool) :
    number width (firstBits width n ++ rest) = .ok (n % 2 ^ width, rest) := by
  induction width generalizing n with
  | zero =>
    rw [Nat.pow_zero, Nat.mod_one]
    rfl
  | succ width ih =>
    have value : (n.testBit 0).toNat + 2 * (n / 2 % 2 ^ width) = n % 2 ^ (width + 1) := by
      rw [Nat.testBit_zero, Nat.pow_succ', Nat.mod_mul]
      rcases Nat.mod_two_eq_zero_or_one n with h | h <;> simp [h]
    rw [firstBits_succ, List.cons_append, number, bit_bind, bind_of_ok (ih (n / 2)), ← value]
    rfl

theorem number_fieldBytes {width n : Nat} (h : n < 2 ^ (8 * width)) (rest : List Bool) :
    number (8 * width) (bitsOf (fieldBytes width n) ++ rest) = .ok (n, rest) := by
  rw [bitsOf_fieldBytes, number_bits, Nat.mod_eq_of_lt h]

theorem takeBytes_bitsOf (bytes : Bytes) (rest : List Bool) :
    takeBytes bytes.length (bitsOf bytes ++ rest) = (bytes, rest) := by
  induction bytes with
  | nil => rfl
  | cons b bytes ih =>
    have byte : b.toNat % 2 ^ 8 = b.toNat := Nat.mod_eq_of_lt b.toNat_lt
    simp only [List.length_cons, takeBytes, bitsOf_cons, List.append_assoc, number_bits, ih, byte,
      UInt8.ofNat_toNat]

/-! ## Blocks that hold bytes as they are -/

/-- The head of a block says whether it is the last one and of what kind it is; five bits are left
over. -/
theorem bitsOf_storedBlock (last : Bool) (data : Bytes) :
    bitsOf (storedBlock last data) =
      last :: false :: false :: (List.replicate 5 false ++
        (bitsOf (fieldBytes 2 data.length) ++ (bitsOf (fieldBytes 2 (0xFFFF - data.length)) ++
          bitsOf data))) := by
  have head : firstBits 8 (UInt8.ofNat last.toNat).toNat =
      last :: false :: false :: List.replicate 5 false := by
    cases last <;> rfl
  have fields : fieldsBytes [(2, data.length), (2, 0xFFFF - data.length)] =
      fieldBytes 2 data.length ++ fieldBytes 2 (0xFFFF - data.length) := by
    simp only [fieldsBytes, List.flatMap_cons, List.flatMap_nil, List.append_nil]
  rw [storedBlock, bitsOf_cons, head, fields]
  simp only [bitsOf_append, List.append_assoc, List.cons_append]

theorem readStoredLength_block {length : Nat} (h : length ≤ 0xFFFF) {padding rest : List Bool}
    (few : padding.length = 5) (aligned : rest.length % 8 = 0) :
    readStoredLength (padding ++ (bitsOf (fieldBytes 2 length) ++
      (bitsOf (fieldBytes 2 (0xFFFF - length)) ++ rest))) = .ok (length, rest) := by
  generalize hafter : bitsOf (fieldBytes 2 (0xFFFF - length)) ++ rest = after
  have left : (padding ++ (bitsOf (fieldBytes 2 length) ++ after)).length % 8 = 5 := by
    subst hafter
    simp only [List.length_append, length_bitsOf, length_fieldBytes]
    omega
  have start : (modify fun bits => bits.drop (bits.length % 8) : BitReader PUnit)
      (padding ++ (bitsOf (fieldBytes 2 length) ++ after)) =
        .ok (⟨⟩, bitsOf (fieldBytes 2 length) ++ after) := by
    change Except.ok (PUnit.unit, List.drop (List.length _ % 8) _) = _
    rw [left, List.drop_left' few]
  have first : number 16 (bitsOf (fieldBytes 2 length) ++ after) = .ok (length, after) :=
    number_fieldBytes (show length < 2 ^ (8 * 2) by omega) after
  have second : number 16 after = .ok (0xFFFF - length, rest) := by
    rw [← hafter]
    exact number_fieldBytes (show 0xFFFF - length < 2 ^ (8 * 2) by omega) rest
  rw [readStoredLength, bind_of_ok start, bind_of_ok first, bind_of_ok second,
    if_pos (Nat.add_sub_of_le h)]
  rfl

theorem aligned_bitsOf (bytes : Bytes) : (bitsOf bytes).length % 8 = 0 := by
  rw [length_bitsOf, Nat.mul_mod_right]

theorem readBlock_stored {data : Bytes} (h : data.length ≤ 0xFFFF) {padding : List Bool}
    (few : padding.length = 5) (output tail : Bytes) :
    readBlock 0 output (padding ++ (bitsOf (fieldBytes 2 data.length) ++
      (bitsOf (fieldBytes 2 (0xFFFF - data.length)) ++ (bitsOf data ++ bitsOf tail)))) =
        (data.reverse ++ output, .ok (bitsOf tail)) := by
  have aligned : (bitsOf data ++ bitsOf tail).length % 8 = 0 := by
    rw [← bitsOf_append]
    exact aligned_bitsOf _
  rw [readBlock, readStoredLength_block h few aligned]
  simp only [takeBytes_bitsOf, Nat.lt_irrefl, if_false]

theorem inflateBlocks_of_block {output output' : Bytes} {bits bits' rest : List Bool}
    {last kind : Nat} (head : readHead bits = .ok ((last, kind), bits'))
    (block : readBlock kind output bits' = (output', .ok rest)) :
    inflateBlocks output bits =
      if last = 1 then .ok ⟨output'.reverse, true⟩ else inflateBlocks output' rest := by
  rw [inflateBlocks]
  split
  next h => cases head.symm.trans h
  next h => cases head.symm.trans h
  next h =>
    cases head.symm.trans h
    split
    next h => cases block.symm.trans h
    next h => cases block.symm.trans h
    next h =>
      cases block.symm.trans h
      rfl

theorem inflateBlocks_storedBlock {data : Bytes} (h : data.length ≤ 0xFFFF) (last : Bool)
    (output tail : Bytes) :
    inflateBlocks output (bitsOf (storedBlock last data ++ tail)) =
      if last then .ok ⟨output.reverse ++ data, true⟩
      else inflateBlocks (data.reverse ++ output) (bitsOf tail) := by
  have block := readBlock_stored h (List.length_replicate (n := 5) (a := false)) output tail
  rw [bitsOf_append, bitsOf_storedBlock]
  simp only [List.cons_append, List.append_assoc]
  rw [inflateBlocks_of_block rfl block]
  cases last <;> simp

/-- **Data in blocks that hold bytes as they are is unpacked as it is.** -/
theorem inflate_storedBlocks (data : Bytes) : inflate (storedBlocks data) = .ok ⟨data, true⟩ := by
  suffices run : ∀ output, inflateBlocks output (bitsOf (storedBlocks data)) =
      .ok ⟨output.reverse ++ data, true⟩ by
    exact run []
  fun_induction storedBlocks data with
  | case1 data short =>
    intro output
    have block := inflateBlocks_storedBlock short true output []
    rwa [List.append_nil] at block
  | case2 data long ih =>
    intro output
    have short : (data.take 0xFFFF).length ≤ 0xFFFF := List.length_take_le _ _
    rw [inflateBlocks_storedBlock short false, if_neg (by decide), ih]
    simp

end SlideMerge.Archive
