import SlideMerge.Text.Quoted
import SlideMerge.Text.Utf8

/-!
# Percent escapes

A byte may be written as a percent sign and two hexadecimal digits. A percent sign without these
stands for itself.
-/

namespace SlideMerge.Text

def hexDigitValue? (b : UInt8) : Option Nat :=
  let n := b.toNat
  if 0x30 ≤ n ∧ n ≤ 0x39 then some (n - 0x30)
  else if 0x41 ≤ n ∧ n ≤ 0x46 then some (n - 0x41 + 10)
  else if 0x61 ≤ n ∧ n ≤ 0x66 then some (n - 0x61 + 10)
  else none

/-- The byte that two hexadecimal digits stand for. -/
def hexByte? (high low : UInt8) : Option UInt8 := do
  return .ofNat (16 * (← hexDigitValue? high) + (← hexDigitValue? low))

/-- The byte with which an escape begins. -/
def percentSign : UInt8 := 0x25

/-- The escape of a byte. -/
def percentEscape (b : UInt8) : List Char :=
  '%' :: (paddedHex 2 b.toNat).map Char.toUpper

/-- Replaces every escape by its byte. -/
def unescapePercent : Bytes → Bytes
  | [] => []
  | [b] => [b]
  | [b₀, b₁] => [b₀, b₁]
  | b₀ :: b₁ :: b₂ :: rest =>
    match if b₀ = percentSign then hexByte? b₁ b₂ else none with
    | some b => b :: unescapePercent rest
    | none => b₀ :: unescapePercent (b₁ :: b₂ :: rest)

/-- Replaces every escape in a text. There is no such text if the bytes are none. -/
def unescapedText? (cs : List Char) : Option (List Char) :=
  (decodeUtf8 (unescapePercent (encodeUtf8 cs))).toOption

end SlideMerge.Text
