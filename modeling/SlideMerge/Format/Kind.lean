import SlideMerge.Format.DateCode

/-!
# Kinds of format codes

Whether a code is meant for dates is not written down in it: it is told from the letters outside
literal text. The two spreadsheet formats tell it by different rules. In the current format the
first section alone counts, and one bare letter of a date is enough. In the legacy format all
sections count, and the letters of dates have to outnumber the placeholders of digits.
-/

namespace SlideMerge.Format

/-- The part of a code up to the first semicolon, quoted or not. -/
def firstPart (code : List Char) : List Char :=
  code.takeWhile (· != ';')

/-- Whether the text after an opening bracket is that of elapsed hours, minutes or seconds. -/
def opensElapsed (rest : List Char) : Bool :=
  [['h', ']'], ['h', 'h', ']'], ['m', ']'], ['m', 'm', ']'], ['s', ']'], ['s', 's', ']']].any
    fun word => word.isPrefixOf rest

/-- Whether the text after an opening quote reaches the closing one on the same line. -/
def closesQuote (rest : List Char) : Bool :=
  (rest.dropWhile fun c => c != '"' && c != '\n').head? == some '"'

/-- The code without quoted text and without parts in brackets other than elapsed times. -/
def dropLiterals : List Char → List Char
  | [] => []
  | c :: rest =>
    if c = '"' ∧ closesQuote rest = true then
      dropLiterals ((rest.dropWhile (· != '"')).drop 1)
    else if c = '[' ∧ ']' ∈ rest ∧ opensElapsed rest = false then
      dropLiterals ((rest.dropWhile (· != ']')).drop 1)
    else c :: dropLiterals rest
termination_by cs => cs.length
decreasing_by
  all_goals simp only [List.length_cons, List.length_drop]
  all_goals first
    | omega
    | exact Nat.lt_succ_of_le
        (Nat.le_trans (Nat.sub_le _ _) (List.dropWhile_suffix _).length_le)

/-- A letter that stands for a part of a date. -/
def isDateLetter (c : Char) : Bool :=
  ['d', 'm', 'h', 'y', 's'].contains c.toLower

/-- Whether a letter of a date stands in the text, not directly after an underscore or a backslash;
`previous` is the character before the text. -/
def hasDateLetter (previous : Char) : List Char → Bool
  | [] => false
  | c :: rest =>
    (isDateLetter c && previous != '_' && previous != '\\') || hasDateLetter c rest

/-- A code for dates and times, by the rule of the current spreadsheet format. -/
def isDateCode (code : List Char) : Bool :=
  hasDateLetter ' ' (dropLiterals (firstPart code))

/-- Whether an elapsed time in brackets begins the text: one or two of the same letter. -/
def beginsElapsed : List Char → Bool
  | '[' :: a :: ']' :: _ => a.toLower = 'h' || a.toLower = 'm' || isSecondLetter a
  | '[' :: a :: b :: ']' :: _ =>
    (a.toLower = 'h' && b.toLower = 'h') || (a.toLower = 'm' && b.toLower = 'm') ||
      (isSecondLetter a && isSecondLetter b)
  | _ => false

/-- Whether an elapsed time in brackets stands anywhere in the text. -/
def hasElapsed : List Char → Bool
  | [] => false
  | c :: rest => beginsElapsed (c :: rest) || hasElapsed rest

/-- A code for lengths of time. -/
def isDurationCode (code : List Char) : Bool :=
  hasElapsed (firstPart code)

/-- The characters of a code that the rule of the legacy format looks at: not those of quoted text,
not the one after a backslash, an underscore or an asterisk, and no currency or separator signs. -/
def legacyVisible : (quoted : Bool) → List Char → List Char
  | _, [] => []
  | true, c :: rest => legacyVisible (c != '"') rest
  | false, c :: rest =>
    if c = '"' then legacyVisible true rest
    else if c = '\\' ∨ c = '_' ∨ c = '*' then
      match rest with
      | [] => []
      | _ :: rest => legacyVisible false rest
    else if ['$', '-', '+', '/', '(', ')', ':', ' '].contains c then legacyVisible false rest
    else c :: legacyVisible false rest

/-- Drops the parts in brackets; `inner` is what has been read of a part since its bracket. A
bracket that is never closed stays. -/
def dropBracketsFrom : (inner : Option (List Char)) → List Char → List Char
  | none, [] => []
  | none, c :: rest =>
    if c = '[' then dropBracketsFrom (some []) rest else c :: dropBracketsFrom none rest
  | some inner, [] => '[' :: inner
  | some inner, c :: rest =>
    if c = ']' then dropBracketsFrom none rest else dropBracketsFrom (some (inner ++ [c])) rest

/-- Codes that are never dates in the legacy format. -/
def legacyNumberCodes : List String :=
  ["0.00E+00", "##0.0E+0", "General", "GENERAL", "general", "@"]

/-- A code for dates and times, by the rule of the legacy spreadsheet format. -/
def isLegacyDateCode (code : List Char) : Bool :=
  let visible := dropBracketsFrom none (legacyVisible false code)
  let letters := visible.countP isDateLetter
  let digits := visible.countP fun c => c == '0' || c == '#' || c == '?'
  !legacyNumberCodes.contains (String.ofList visible) && digits < letters

end SlideMerge.Format
