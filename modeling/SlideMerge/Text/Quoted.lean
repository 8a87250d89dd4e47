import SlideMerge.Text.Printable
import SlideMerge.Text.Utf8

/-!
# Quoted text

A quoted text stands between single quotes, or between double quotes if it holds single quotes
and no double ones. Inside, the backslash, the quote character, the line feed, the carriage return
and the tab are escaped by a backslash, and every other character that is not printable by its
code point in hexadecimal: two digits after `\x`, four after `\u` or eight after `\U`. Bytes are
shown in the same way after a `b`, those outside ASCII in hexadecimal.
-/

namespace SlideMerge.Text

/-- The hexadecimal digits of a number, in lower case, with leading zeros up to the width. -/
def paddedHex (width n : Nat) : List Char :=
  let digits := Nat.toDigits 16 n
  List.replicate (width - digits.length) '0' ++ digits

/-- A code point as a hexadecimal escape of the least of the three widths that holds it. -/
def hexEscape (code : Nat) : List Char :=
  if code < 0x100 then '\\' :: 'x' :: paddedHex 2 code
  else if code < 0x10000 then '\\' :: 'u' :: paddedHex 4 code
  else '\\' :: 'U' :: paddedHex 8 code

/-- One character between quotes of the given kind. -/
def quoteChar (quote c : Char) : List Char :=
  if c = quote ∨ c = '\\' then ['\\', c]
  else if c = '\n' then ['\\', 'n']
  else if c = '\r' then ['\\', 'r']
  else if c = '\t' then ['\\', 't']
  else if isPrintable c then [c]
  else hexEscape c.toNat

/-- The quote character that a text is written in. -/
def quoteFor (cs : List Char) : Char :=
  if cs.contains '\'' && !cs.contains '"' then '"' else '\''

/-- The text in quotes. -/
def quoted (cs : List Char) : List Char :=
  let quote := quoteFor cs
  quote :: (cs.flatMap (quoteChar quote) ++ [quote])

def quotedString (s : String) : String :=
  String.ofList (quoted s.toList)

def shownBytes (bytes : Bytes) : List Char :=
  let body := bytes.map fun b => Char.ofNat b.toNat
  let quote := quoteFor body
  let shown := body.flatMap fun c =>
    if c.toNat < 0x80 then quoteChar quote c else hexEscape c.toNat
  'b' :: quote :: (shown ++ [quote])

end SlideMerge.Text
