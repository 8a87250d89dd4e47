/-!
# UTF-8

A character takes one to four bytes. `decodeUtf8` refuses overlong forms, surrogates and code
points above `U+10FFFF` where they first show, which is at the second byte, and says how many
bytes had been read when the fault showed.
-/

namespace SlideMerge.Text

/-- A sequence of bytes. -/
abbrev Bytes := List UInt8

def encodeUtf8Char (c : Char) : Bytes :=
  let n := c.toNat
  if n < 0x80 then [.ofNat n]
  else if n < 0x800 then [.ofNat (0xC0 + n / 64), .ofNat (0x80 + n % 64)]
  else if n < 0x10000 then
    [.ofNat (0xE0 + n / 4096), .ofNat (0x80 + n / 64 % 64), .ofNat (0x80 + n % 64)]
  else
    [.ofNat (0xF0 + n / 262144), .ofNat (0x80 + n / 4096 % 64), .ofNat (0x80 + n / 64 % 64),
     .ofNat (0x80 + n % 64)]

/-- The bytes of a text. -/
def encodeUtf8 (cs : List Char) : Bytes :=
  cs.flatMap encodeUtf8Char

/-- Why bytes are no text in UTF-8. -/
inductive Utf8Fault
  /-- The byte begins no character. -/
  | startByte
  /-- A byte cannot continue the character. -/
  | continuationByte
  /-- The text ends within the character. -/
  | truncated
  deriving DecidableEq, Repr

/-- The place of the first fault: the offset of the character's first byte, that byte, and how
many bytes of the character had been accepted. -/
structure Utf8Error where
  offset : Nat
  byte : UInt8
  accepted : Nat
  fault : Utf8Fault
  deriving DecidableEq, Repr

/-- A byte of the form `10xxxxxx`. -/
def isContinuation (b : UInt8) : Bool :=
  0x80 ≤ b && b < 0xC0

/-- Whether `second` can follow the first byte `first` of a character of two bytes or more. After
`E0` and `F0` it must not begin an overlong form, after `ED` no surrogate, and after `F4` no code
point that is too large. -/
def isSecond (first second : UInt8) : Bool :=
  isContinuation second &&
    (first != 0xE0 || 0xA0 ≤ second) && (first != 0xED || second < 0xA0) &&
    (first != 0xF0 || 0x90 ≤ second) && (first != 0xF4 || second < 0x90)

/-- Reads the characters of bytes that begin at the given offset of a longer sequence. -/
def decodeUtf8From (offset : Nat) : Bytes → Except Utf8Error (List Char)
  | [] => .ok []
  | b₀ :: rest₀ =>
    let n₀ := b₀.toNat
    if b₀ < 0x80 then
      (Char.ofNat n₀ :: ·) <$> decodeUtf8From (offset + 1) rest₀
    else if b₀ < 0xC2 || 0xF5 ≤ b₀ then
      .error ⟨offset, b₀, 1, .startByte⟩
    else
      match rest₀ with
      | [] => .error ⟨offset, b₀, 1, .truncated⟩
      | b₁ :: rest₁ =>
        let n₁ := b₁.toNat % 64
        if !isSecond b₀ b₁ then
          .error ⟨offset, b₀, 1, .continuationByte⟩
        else if b₀ < 0xE0 then
          (Char.ofNat (n₀ % 32 * 64 + n₁) :: ·) <$> decodeUtf8From (offset + 2) rest₁
        else
          match rest₁ with
          | [] => .error ⟨offset, b₀, 2, .truncated⟩
          | b₂ :: rest₂ =>
            let n₂ := b₂.toNat % 64
            if !isContinuation b₂ then
              .error ⟨offset, b₀, 2, .continuationByte⟩
            else if b₀ < 0xF0 then
              (Char.ofNat (n₀ % 16 * 4096 + n₁ * 64 + n₂) :: ·) <$>
                decodeUtf8From (offset + 3) rest₂
            else
              match rest₂ with
              | [] => .error ⟨offset, b₀, 3, .truncated⟩
              | b₃ :: rest₃ =>
                if !isContinuation b₃ then
                  .error ⟨offset, b₀, 3, .continuationByte⟩
                else
                  (Char.ofNat (n₀ % 8 * 262144 + n₁ * 4096 + n₂ * 64 + b₃.toNat % 64) :: ·) <$>
                    decodeUtf8From (offset + 4) rest₃

/-- The text that the bytes hold, or the first fault. -/
def decodeUtf8 (bytes : Bytes) : Except Utf8Error (List Char) :=
  decodeUtf8From 0 bytes

end SlideMerge.Text
