import SlideMerge.Text.Utf8

/-!
# Checksums

The cyclic redundancy check of 32 bits that archives keep for the data of each entry. Bits enter
from the least significant one, and the register begins and ends inverted.
-/

namespace SlideMerge.Archive

open Text

/-- The generator polynomial, the coefficient of `x^31` in the least significant bit. -/
def checksumPolynomial : UInt32 := 0xEDB88320

/-- Shifts so many bits out of the register. -/
def shiftBits : Nat → UInt32 → UInt32
  | 0, register => register
  | n + 1, register =>
    let shifted := register >>> 1
    shiftBits n (if register &&& 1 = 1 then shifted ^^^ checksumPolynomial else shifted)

def takeByte (register : UInt32) (b : UInt8) : UInt32 :=
  shiftBits 8 (register ^^^ b.toUInt32)

def checksum (bytes : Bytes) : UInt32 :=
  bytes.foldl takeByte 0xFFFFFFFF ^^^ 0xFFFFFFFF

end SlideMerge.Archive
