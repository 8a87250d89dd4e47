import SlideMerge.Proofs.Traversal
import SlideMerge.Text.Encoding

/-!
# Texts and their bytes

Writing a text in an encoding and reading it back gives the text, and reading bytes and writing the
text again gives the bytes. So a slide whose text does not change keeps its data byte for byte.

For UTF-8 this needs that the reader takes the shortest form of each character only. The lemmas go
by the number of bytes of a character: what the reader does with so many bytes, and what the writer
makes of the character that it reads.

Which texts can be written depends on their characters alone (`Encoding.exists_encode_iff`).

Main results: `Encoding.decode_of_encode` and `Encoding.encode_of_decode`.
-/

namespace SlideMerge.Text

/-! ## Bytes as numbers -/

theorem isContinuation_iff (b : UInt8) : isContinuation b ↔ 0x80 ≤ b.toNat ∧ b.toNat < 0xC0 := by
  simp [isContinuation, UInt8.le_iff_toNat_le, UInt8.lt_iff_toNat_lt]

theorem isSecond_iff (first second : UInt8) :
    isSecond first second ↔
      (0x80 ≤ second.toNat ∧ second.toNat < 0xC0) ∧
        (first.toNat = 0xE0 → 0xA0 ≤ second.toNat) ∧ (first.toNat = 0xED → second.toNat < 0xA0) ∧
        (first.toNat = 0xF0 → 0x90 ≤ second.toNat) ∧
        (first.toNat = 0xF4 → second.toNat < 0x90) := by
  simp only [isSecond, Bool.and_eq_true, Bool.or_eq_true, isContinuation_iff, bne_iff_ne,
    decide_eq_true_eq, UInt8.le_iff_toNat_le, UInt8.lt_iff_toNat_lt, ne_eq, ← UInt8.toNat_inj]
  simp only [UInt8.toNat_ofNat, Nat.reducePow, Nat.reduceMod, ← imp_iff_not_or, and_assoc]

theorem ofNat_eq {n : Nat} {b : UInt8} (h : n = b.toNat) : UInt8.ofNat n = b := by
  rw [h, UInt8.ofNat_toNat]

theorem toNat_ofNat_of_lt {n : Nat} (h : n < 0x100) : (UInt8.ofNat n).toNat = n := by
  rw [UInt8.toNat_ofNat', Nat.mod_eq_of_lt h]

/-- The code points are those below the surrogates and those above them. -/
theorem toNat_char (c : Char) : c.toNat < 0xD800 ∨ 0xDFFF < c.toNat ∧ c.toNat < 0x110000 :=
  c.valid

theorem toNat_charOfNat {n : Nat} (h : n < 0xD800 ∨ 0xDFFF < n ∧ n < 0x110000) :
    (Char.ofNat n).toNat = n := by
  rw [Char.ofNat, dif_pos h]
  rfl

/-! ## What the reader takes -/

section Reader

variable (offset : Nat) {b₀ b₁ b₂ b₃ : UInt8} (rest : Bytes)

theorem decodeUtf8From_one (h : b₀.toNat < 0x80) :
    decodeUtf8From offset (b₀ :: rest) =
      (Char.ofNat b₀.toNat :: ·) <$> decodeUtf8From (offset + 1) rest := by
  rw [decodeUtf8From.eq_def]
  exact if_pos (UInt8.lt_iff_toNat_lt.2 h)

theorem first_of_several (h₁ : 0xC2 ≤ b₀.toNat) (h₂ : b₀.toNat < 0xF5) :
    ¬ b₀ < 0x80 ∧ ¬ (b₀ < 0xC2 || 0xF5 ≤ b₀) = true := by
  simp only [Bool.or_eq_true, decide_eq_true_eq, UInt8.lt_iff_toNat_lt, UInt8.le_iff_toNat_le]
  simp only [UInt8.toNat_ofNat, Nat.reducePow, Nat.reduceMod]
  omega

theorem decodeUtf8From_two (h₁ : 0xC2 ≤ b₀.toNat) (h₂ : b₀.toNat < 0xE0) (hs : isSecond b₀ b₁) :
    decodeUtf8From offset (b₀ :: b₁ :: rest) =
      (Char.ofNat (b₀.toNat % 32 * 64 + b₁.toNat % 64) :: ·) <$>
        decodeUtf8From (offset + 2) rest := by
  obtain ⟨hn₁, hn₂⟩ := first_of_several h₁ (by omega)
  rw [decodeUtf8From, if_neg hn₁, if_neg hn₂]
  simp only [hs, Bool.not_true, Bool.false_eq_true, if_false]
  rw [if_pos (UInt8.lt_iff_toNat_lt.2 h₂)]

theorem decodeUtf8From_three (h₁ : 0xE0 ≤ b₀.toNat) (h₂ : b₀.toNat < 0xF0)
    (hs : isSecond b₀ b₁) (hc : isContinuation b₂) :
    decodeUtf8From offset (b₀ :: b₁ :: b₂ :: rest) =
      (Char.ofNat (b₀.toNat % 16 * 4096 + b₁.toNat % 64 * 64 + b₂.toNat % 64) :: ·) <$>
        decodeUtf8From (offset + 3) rest := by
  obtain ⟨hn₁, hn₂⟩ := first_of_several (show 0xC2 ≤ b₀.toNat by omega) (by omega)
  rw [decodeUtf8From, if_neg hn₁, if_neg hn₂]
  simp only [hs, hc, Bool.not_true, Bool.false_eq_true, if_false]
  rw [if_neg (fun h => Nat.not_lt.2 h₁ (UInt8.lt_iff_toNat_lt.1 h)),
    if_pos (UInt8.lt_iff_toNat_lt.2 h₂)]

theorem decodeUtf8From_four (h₁ : 0xF0 ≤ b₀.toNat) (h₂ : b₀.toNat < 0xF5)
    (hs : isSecond b₀ b₁) (hc₂ : isContinuation b₂) (hc₃ : isContinuation b₃) :
    decodeUtf8From offset (b₀ :: b₁ :: b₂ :: b₃ :: rest) =
      (Char.ofNat (b₀.toNat % 8 * 262144 + b₁.toNat % 64 * 4096 + b₂.toNat % 64 * 64 +
          b₃.toNat % 64) :: ·) <$>
        decodeUtf8From (offset + 4) rest := by
  obtain ⟨hn₁, hn₂⟩ := first_of_several (show 0xC2 ≤ b₀.toNat by omega) h₂
  rw [decodeUtf8From, if_neg hn₁, if_neg hn₂]
  simp only [hs, hc₂, hc₃, Bool.not_true, Bool.false_eq_true, if_false]
  rw [if_neg (fun h => Nat.not_lt.2 (show 0xE0 ≤ b₀.toNat by omega) (UInt8.lt_iff_toNat_lt.1 h)),
    if_neg (fun h => Nat.not_lt.2 h₁ (UInt8.lt_iff_toNat_lt.1 h))]

end Reader

/-! ## Reading what was written -/

theorem decodeUtf8From_encodeUtf8Char (offset : Nat) (c : Char) (rest : Bytes) :
    ∃ next, decodeUtf8From offset (encodeUtf8Char c ++ rest) =
      (c :: ·) <$> decodeUtf8From next rest := by
  have hc := toNat_char c
  rw [encodeUtf8Char]
  split_ifs with h₁ h₂ h₃
  · have e₀ := toNat_ofNat_of_lt (show c.toNat < 0x100 by omega)
    refine ⟨offset + 1, ?_⟩
    rw [List.singleton_append, decodeUtf8From_one offset rest (by omega), e₀, Char.ofNat_toNat]
  · have e₀ := toNat_ofNat_of_lt (show 0xC0 + c.toNat / 64 < 0x100 by omega)
    have e₁ := toNat_ofNat_of_lt (show 0x80 + c.toNat % 64 < 0x100 by omega)
    refine ⟨offset + 2, ?_⟩
    rw [List.cons_append, List.singleton_append, decodeUtf8From_two offset rest (by omega)
      (by omega) ((isSecond_iff _ _).2 (by omega)), e₀, e₁]
    rw [show (0xC0 + c.toNat / 64) % 32 * 64 + (0x80 + c.toNat % 64) % 64 = c.toNat by omega,
      Char.ofNat_toNat]
  · have e₀ := toNat_ofNat_of_lt (show 0xE0 + c.toNat / 4096 < 0x100 by omega)
    have e₁ := toNat_ofNat_of_lt (show 0x80 + c.toNat / 64 % 64 < 0x100 by omega)
    have e₂ := toNat_ofNat_of_lt (show 0x80 + c.toNat % 64 < 0x100 by omega)
    refine ⟨offset + 3, ?_⟩
    simp only [List.cons_append, List.nil_append]
    rw [decodeUtf8From_three offset rest (by omega) (by omega) ((isSecond_iff _ _).2 (by omega))
      ((isContinuation_iff _).2 (by omega)), e₀, e₁, e₂]
    rw [show (0xE0 + c.toNat / 4096) % 16 * 4096 + (0x80 + c.toNat / 64 % 64) % 64 * 64 +
      (0x80 + c.toNat % 64) % 64 = c.toNat by omega, Char.ofNat_toNat]
  · have e₀ := toNat_ofNat_of_lt (show 0xF0 + c.toNat / 262144 < 0x100 by omega)
    have e₁ := toNat_ofNat_of_lt (show 0x80 + c.toNat / 4096 % 64 < 0x100 by omega)
    have e₂ := toNat_ofNat_of_lt (show 0x80 + c.toNat / 64 % 64 < 0x100 by omega)
    have e₃ := toNat_ofNat_of_lt (show 0x80 + c.toNat % 64 < 0x100 by omega)
    refine ⟨offset + 4, ?_⟩
    simp only [List.cons_append, List.nil_append]
    rw [decodeUtf8From_four offset rest (by omega) (by omega) ((isSecond_iff _ _).2 (by omega))
      ((isContinuation_iff _).2 (by omega)) ((isContinuation_iff _).2 (by omega)), e₀, e₁, e₂, e₃]
    rw [show (0xF0 + c.toNat / 262144) % 8 * 262144 + (0x80 + c.toNat / 4096 % 64) % 64 * 4096 +
      (0x80 + c.toNat / 64 % 64) % 64 * 64 + (0x80 + c.toNat % 64) % 64 = c.toNat by omega,
      Char.ofNat_toNat]

theorem decodeUtf8From_encodeUtf8 (offset : Nat) (cs : List Char) :
    decodeUtf8From offset (encodeUtf8 cs) = .ok cs := by
  induction cs generalizing offset with
  | nil => rfl
  | cons c rest ih =>
    rw [encodeUtf8, List.flatMap_cons]
    obtain ⟨next, h⟩ := decodeUtf8From_encodeUtf8Char offset c (encodeUtf8 rest)
    rw [encodeUtf8] at h
    rw [h]
    exact map_eq_ok.2 ⟨rest, ih next, rfl⟩

/-! ## Writing what was read -/

theorem encodeUtf8Char_one {b₀ : UInt8} (h : b₀.toNat < 0x80) :
    encodeUtf8Char (Char.ofNat b₀.toNat) = [b₀] := by
  rw [encodeUtf8Char, toNat_charOfNat (by omega), if_pos h, UInt8.ofNat_toNat]

theorem encodeUtf8Char_two {b₀ b₁ : UInt8} (h₁ : 0xC2 ≤ b₀.toNat) (h₂ : b₀.toNat < 0xE0)
    (hs : isSecond b₀ b₁) :
    encodeUtf8Char (Char.ofNat (b₀.toNat % 32 * 64 + b₁.toNat % 64)) = [b₀, b₁] := by
  have hs := (isSecond_iff b₀ b₁).1 hs
  rw [encodeUtf8Char, toNat_charOfNat (by omega), if_neg (by omega), if_pos (by omega)]
  rw [ofNat_eq (b := b₀) (by omega), ofNat_eq (b := b₁) (by omega)]

theorem encodeUtf8Char_three {b₀ b₁ b₂ : UInt8} (h₁ : 0xE0 ≤ b₀.toNat) (h₂ : b₀.toNat < 0xF0)
    (hs : isSecond b₀ b₁) (hc : isContinuation b₂) :
    encodeUtf8Char (Char.ofNat (b₀.toNat % 16 * 4096 + b₁.toNat % 64 * 64 + b₂.toNat % 64)) =
      [b₀, b₁, b₂] := by
  have hs := (isSecond_iff b₀ b₁).1 hs
  have hc := (isContinuation_iff b₂).1 hc
  rw [encodeUtf8Char, toNat_charOfNat (by omega), if_neg (by omega), if_neg (by omega),
    if_pos (by omega)]
  rw [ofNat_eq (b := b₀) (by omega), ofNat_eq (b := b₁) (by omega), ofNat_eq (b := b₂) (by omega)]

theorem encodeUtf8Char_four {b₀ b₁ b₂ b₃ : UInt8} (h₁ : 0xF0 ≤ b₀.toNat) (h₂ : b₀.toNat < 0xF5)
    (hs : isSecond b₀ b₁) (hc₂ : isContinuation b₂) (hc₃ : isContinuation b₃) :
    encodeUtf8Char (Char.ofNat (b₀.toNat % 8 * 262144 + b₁.toNat % 64 * 4096 +
      b₂.toNat % 64 * 64 + b₃.toNat % 64)) = [b₀, b₁, b₂, b₃] := by
  have hs := (isSecond_iff b₀ b₁).1 hs
  have hc₂ := (isContinuation_iff b₂).1 hc₂
  have hc₃ := (isContinuation_iff b₃).1 hc₃
  rw [encodeUtf8Char, toNat_charOfNat (by omega), if_neg (by omega), if_neg (by omega),
    if_neg (by omega)]
  rw [ofNat_eq (b := b₀) (by omega), ofNat_eq (b := b₁) (by omega), ofNat_eq (b := b₂) (by omega),
    ofNat_eq (b := b₃) (by omega)]

theorem several_of_first {b₀ : UInt8} (h : ¬ (b₀ < 0xC2 || 0xF5 ≤ b₀) = true) :
    0xC2 ≤ b₀.toNat ∧ b₀.toNat < 0xF5 := by
  simp only [Bool.or_eq_true, decide_eq_true_eq, UInt8.lt_iff_toNat_lt,
    UInt8.le_iff_toNat_le] at h
  simp only [UInt8.toNat_ofNat, Nat.reducePow, Nat.reduceMod] at h
  omega

/-- The characters that the reader takes from some bytes are written as these bytes. -/
theorem encodeUtf8_of_decodeUtf8From (offset : Nat) (bytes : Bytes) :
    ∀ cs, decodeUtf8From offset bytes = .ok cs → encodeUtf8 cs = bytes := by
  fun_induction decodeUtf8From offset bytes with
  | case1 => rintro cs ⟨⟩; rfl
  | case2 offset b₀ rest n₀ h ih =>
    intro cs hcs
    obtain ⟨more, hm, rfl⟩ := map_eq_ok.1 hcs
    rw [encodeUtf8, List.flatMap_cons, encodeUtf8Char_one (UInt8.lt_iff_toNat_lt.1 h)]
    exact congrArg (b₀ :: ·) (ih more hm)
  | case6 offset b₀ n₀ h₁ h₂ b₁ rest n₁ hs h₃ ih =>
    intro cs hcs
    obtain ⟨more, hm, rfl⟩ := map_eq_ok.1 hcs
    rw [encodeUtf8, List.flatMap_cons, encodeUtf8Char_two (several_of_first h₂).1
      (UInt8.lt_iff_toNat_lt.1 h₃) (by simpa using hs)]
    exact congrArg (b₀ :: b₁ :: ·) (ih more hm)
  | case9 offset b₀ n₀ h₁ h₂ b₁ n₁ hs h₃ b₂ rest n₂ hc h₄ ih =>
    intro cs hcs
    obtain ⟨more, hm, rfl⟩ := map_eq_ok.1 hcs
    rw [encodeUtf8, List.flatMap_cons, encodeUtf8Char_three
      (Nat.not_lt.1 fun h => h₃ (UInt8.lt_iff_toNat_lt.2 h)) (UInt8.lt_iff_toNat_lt.1 h₄)
      (by simpa using hs) (by simpa using hc)]
    exact congrArg (b₀ :: b₁ :: b₂ :: ·) (ih more hm)
  | case12 offset b₀ n₀ h₁ h₂ b₁ n₁ hs h₃ b₂ n₂ hc₂ h₄ b₃ rest hc₃ ih =>
    intro cs hcs
    obtain ⟨more, hm, rfl⟩ := map_eq_ok.1 hcs
    rw [encodeUtf8, List.flatMap_cons, encodeUtf8Char_four
      (Nat.not_lt.1 fun h => h₄ (UInt8.lt_iff_toNat_lt.2 h)) (several_of_first h₂).2
      (by simpa using hs) (by simpa using hc₂) (by simpa using hc₃)]
    exact congrArg (b₀ :: b₁ :: b₂ :: b₃ :: ·) (ih more hm)
  -- the reader refuses the bytes
  | case3 | case4 | case5 | case7 | case8 | case10 | case11 =>
    exact fun cs h => absurd h error_ne_ok

/-! ## One-byte encodings -/

theorem decodeBelow_of_encodeBelow {encoding : Encoding} {limit : Nat} (hl : limit ≤ 0x100)
    (offset offset' : Nat) {cs : List Char} {bytes : Bytes}
    (h : Encoding.encodeBelow encoding limit offset cs = .ok bytes) :
    Encoding.decodeBelow limit offset' bytes = .ok cs := by
  induction cs generalizing offset offset' bytes with
  | nil =>
    obtain rfl := Except.ok.inj h
    rfl
  | cons c rest ih =>
    rw [Encoding.encodeBelow] at h
    split_ifs at h with hc
    obtain ⟨more, hm, rfl⟩ := map_eq_ok.1 h
    have hb := toNat_ofNat_of_lt (show c.toNat < 0x100 by omega)
    rw [Encoding.decodeBelow, hb, if_pos hc, Char.ofNat_toNat]
    exact map_eq_ok.2 ⟨rest, ih (offset + 1) (offset' + 1) hm, rfl⟩

theorem encodeBelow_of_decodeBelow {encoding : Encoding} {limit : Nat} (hl : limit ≤ 0x100)
    (offset offset' : Nat) {cs : List Char} {bytes : Bytes}
    (h : Encoding.decodeBelow limit offset bytes = .ok cs) :
    Encoding.encodeBelow encoding limit offset' cs = .ok bytes := by
  induction bytes generalizing offset offset' cs with
  | nil =>
    obtain rfl := Except.ok.inj h
    rfl
  | cons b rest ih =>
    rw [Encoding.decodeBelow] at h
    split_ifs at h with hb
    obtain ⟨more, hm, rfl⟩ := map_eq_ok.1 h
    have hc := toNat_charOfNat (show b.toNat < 0xD800 ∨ _ from Or.inl (by omega))
    rw [Encoding.encodeBelow, hc, if_pos hb, UInt8.ofNat_toNat]
    exact map_eq_ok.2 ⟨rest, ih (offset + 1) (offset' + 1) hm, rfl⟩

namespace Encoding

/-- **What is written is read.** -/
theorem decode_of_encode {encoding : Encoding} {cs : List Char} {bytes : Bytes}
    (h : encoding.encode cs = .ok bytes) : encoding.decode bytes = .ok cs := by
  cases encoding with
  | utf8 =>
    obtain rfl := Except.ok.inj h
    exact mapError_eq_ok.2 (decodeUtf8From_encodeUtf8 0 cs)
  | ascii => exact decodeBelow_of_encodeBelow (by omega) 0 0 h
  | latin1 => exact decodeBelow_of_encodeBelow (by omega) 0 0 h

/-- **What is read is written again byte for byte.** -/
theorem encode_of_decode {encoding : Encoding} {bytes : Bytes} {cs : List Char}
    (h : encoding.decode bytes = .ok cs) : encoding.encode cs = .ok bytes := by
  cases encoding with
  | utf8 => exact congrArg Except.ok (encodeUtf8_of_decodeUtf8From 0 bytes cs (mapError_eq_ok.1 h))
  | ascii => exact encodeBelow_of_decodeBelow (by omega) 0 0 h
  | latin1 => exact encodeBelow_of_decodeBelow (by omega) 0 0 h

/-- The bound of the code points that an encoding holds. -/
def limit : Encoding → Nat
  | utf8 => 0x110000
  | ascii => 128
  | latin1 => 256

theorem exists_encodeBelow_iff {encoding : Encoding} {limit offset : Nat} {cs : List Char} :
    (∃ bytes, encodeBelow encoding limit offset cs = .ok bytes) ↔ ∀ c ∈ cs, c.toNat < limit := by
  induction cs generalizing offset with
  | nil => exact iff_of_true ⟨[], rfl⟩ (List.forall_mem_nil _)
  | cons c rest ih =>
    rw [List.forall_mem_cons, ← @ih (offset + 1), encodeBelow]
    by_cases hc : c.toNat < limit
    · rw [if_pos hc, and_iff_right hc]
      constructor
      · rintro ⟨_, h⟩
        obtain ⟨bytes, hb, -⟩ := map_eq_ok.1 h
        exact ⟨bytes, hb⟩
      · rintro ⟨bytes, hb⟩
        exact ⟨_, map_eq_ok.2 ⟨bytes, hb, rfl⟩⟩
    · rw [if_neg hc]
      exact iff_of_false (fun ⟨_, h⟩ => error_ne_ok h) fun h => hc h.1

/-- **A text can be written if each of its characters can.** -/
theorem exists_encode_iff {encoding : Encoding} {cs : List Char} :
    (∃ bytes, encoding.encode cs = .ok bytes) ↔ ∀ c ∈ cs, c.toNat < encoding.limit := by
  cases encoding with
  | utf8 =>
    refine iff_of_true ⟨encodeUtf8 cs, rfl⟩ fun c _ => ?_
    have hc := toNat_char c
    rw [limit]
    omega
  | ascii => exact exists_encodeBelow_iff
  | latin1 => exact exists_encodeBelow_iff

end Encoding

end SlideMerge.Text
