/-!
# Sections of a number format code

A format code has up to four sections between semicolons. A semicolon between double quotes or
after a backslash does not separate; here a backslash has its meaning between quotes too. Inside a
section, a part in brackets is a colour, a condition or a locale and is dropped, but the currency
symbol of a locale part is kept.
-/

namespace SlideMerge.Format

/-- Puts a character before the first of the sections. -/
def consFirst (c : Char) (sections : List Char × List (List Char)) : List Char × List (List Char) :=
  (c :: sections.1, sections.2)

/-- Splits a code whose beginning lies inside quotes, or after a backslash, as the flags say. -/
def splitFrom (quoted escaped : Bool) : List Char → List Char × List (List Char)
  | [] => ([], [])
  | c :: rest =>
    if escaped then consFirst c (splitFrom quoted false rest)
    else if c = '\\' then consFirst c (splitFrom quoted true rest)
    else if c = '"' then consFirst c (splitFrom (!quoted) false rest)
    else if c = ';' ∧ quoted = false then
      let (first, others) := splitFrom quoted false rest
      ([], first :: others)
    else consFirst c (splitFrom quoted false rest)

/-- The first section of a code and the others. -/
def sections (code : List Char) : List Char × List (List Char) :=
  splitFrom false false code

/-- The sections of a code, of which there is at least one. -/
def splitSections (code : List Char) : List (List Char) :=
  let (first, others) := sections code
  first :: others

/-- What remains of a part in brackets: of a locale part `$symbol-locale` the symbol. -/
def bracketSymbol : List Char → List Char
  | '$' :: rest => rest.takeWhile (· != '-')
  | _ => []

/-- Drops the parts in brackets; `inner` is what has been read of a part since its bracket. A
bracket that is never closed stays. -/
def stripFrom : (inner : Option (List Char)) → List Char → List Char
  | none, [] => []
  | none, c :: rest => if c = '[' then stripFrom (some []) rest else c :: stripFrom none rest
  | some inner, [] => '[' :: inner
  | some inner, c :: rest =>
    if c = ']' then bracketSymbol inner ++ stripFrom none rest
    else stripFrom (some (inner ++ [c])) rest

/-- The section without its parts in brackets. -/
def stripBrackets (sec : List Char) : List Char :=
  stripFrom none sec

@[simp] theorem stripBrackets_nil : stripBrackets [] = [] := rfl

end SlideMerge.Format
