import SlideMerge.Text.Quoted
import SlideMerge.Text.Utf8

/-!
# Character encodings

Three encodings of text in bytes: UTF-8, in which every text can be written, and the two one-byte
encodings ASCII and Latin-1, which hold the code points below 128 and 256. Faults are causes with
a place; `message` gives them their wording.
-/

namespace SlideMerge.Text

/-- An encoding of text in bytes. -/
inductive Encoding
  | utf8
  | ascii
  | latin1
  deriving DecidableEq, Repr

namespace Encoding

/-- The name of the encoding in messages. -/
def name : Encoding → String
  | utf8 => "utf-8"
  | ascii => "ascii"
  | latin1 => "latin-1"

/-- Why bytes cannot be read. -/
inductive DecodeError
  | malformed (error : Utf8Error)
  /-- A byte at an offset stands for no character of a one-byte encoding. -/
  | unassigned (offset : Nat) (byte : UInt8)
  deriving DecidableEq, Repr

/-- Why a text cannot be written: the run of its characters from `first` to `last`, the first of
them being `char`, lies outside the encoding. -/
structure EncodeError where
  encoding : Encoding
  limit : Nat
  first : Nat
  last : Nat
  char : Char
  deriving DecidableEq, Repr

/-- Reads bytes of a one-byte encoding with the code points below `limit`. -/
def decodeBelow (limit : Nat) (offset : Nat) : Bytes → Except DecodeError (List Char)
  | [] => .ok []
  | b :: rest =>
    if b.toNat < limit then (Char.ofNat b.toNat :: ·) <$> decodeBelow limit (offset + 1) rest
    else .error (.unassigned offset b)

/-- The text that the bytes hold. -/
def decode : Encoding → Bytes → Except DecodeError (List Char)
  | utf8, bytes => (decodeUtf8 bytes).mapError .malformed
  | ascii, bytes => decodeBelow 128 0 bytes
  | latin1, bytes => decodeBelow 256 0 bytes

/-- Writes a text in a one-byte encoding with the code points below `limit`. The error names the
first maximal run of characters that lie outside. -/
def encodeBelow (encoding : Encoding) (limit offset : Nat) : List Char → Except EncodeError Bytes
  | [] => .ok []
  | c :: rest =>
    if c.toNat < limit then
      (UInt8.ofNat c.toNat :: ·) <$> encodeBelow encoding limit (offset + 1) rest
    else
      let run := rest.takeWhile fun d => limit ≤ d.toNat
      .error ⟨encoding, limit, offset, offset + run.length, c⟩

/-- The bytes of a text. -/
def encode : Encoding → List Char → Except EncodeError Bytes
  | utf8, cs => .ok (encodeUtf8 cs)
  | ascii, cs => encodeBelow ascii 128 0 cs
  | latin1, cs => encodeBelow latin1 256 0 cs

/-- The wording of the range of a one-byte encoding. -/
def rangeReason (limit : Nat) : String :=
  s!"ordinal not in range({limit})"

def faultReason : Utf8Fault → String
  | .startByte => "invalid start byte"
  | .continuationByte => "invalid continuation byte"
  | .truncated => "unexpected end of data"

def DecodeError.message (encoding : Encoding) : DecodeError → String
  | .malformed ⟨offset, byte, accepted, fault⟩ =>
    let place :=
      if accepted = 1 then
        s!"byte 0x{String.ofList (paddedHex 2 byte.toNat)} in position {offset}"
      else s!"bytes in position {offset}-{offset + accepted - 1}"
    s!"'{encoding.name}' codec can't decode {place}: {faultReason fault}"
  | .unassigned offset byte =>
    let hex := String.ofList (paddedHex 2 byte.toNat)
    s!"'{encoding.name}' codec can't decode byte 0x{hex} in position {offset}: {rangeReason 128}"

def EncodeError.message (e : EncodeError) : String :=
  let place :=
    if e.first = e.last then
      s!"character '{String.ofList (hexEscape e.char.toNat)}' in position {e.first}"
    else s!"characters in position {e.first}-{e.last}"
  s!"'{e.encoding.name}' codec can't encode {place}: {rangeReason e.limit}"

end Encoding

end SlideMerge.Text
