import SlideMerge.Text.Blank

/-!
# Help texts

A help text has a usage line, perhaps a description, and sections of entries. An entry is a term
with an explanation beside it, in a column that all entries share; a term that is too long for its
column has the explanation below it. Lines are at most 78 characters long where words allow it.
-/

namespace SlideMerge.Command

open Text

/-- The length of a line. -/
def lineWidth : Nat := 78

/-- The last column in which explanations may begin. -/
def maxExplanationColumn : Nat := 24

/-- A term with its explanation. -/
structure HelpEntry where
  /-- How far the term is moved to the right. -/
  indent : Nat
  term : String
  explanation : Option String
  deriving DecidableEq, Repr

/-- Entries under a heading. -/
structure HelpSection where
  heading : String
  entries : List HelpEntry
  deriving DecidableEq, Repr

/-- A help text. -/
structure HelpText where
  usage : String
  description : Option String
  sections : List HelpSection
  deriving DecidableEq, Repr

def words (text : List Char) : List (List Char) :=
  ((text.map fun c => if isBlank c then ' ' else c).splitOn ' ').filter fun w => !w.isEmpty

/-- Adds a word to lines, the last of them first: to the last line if it fits there. -/
def addWord (width : Nat) (lines : List (List Char)) (word : List Char) : List (List Char) :=
  match lines with
  | [] => [word]
  | line :: others =>
    if line.length + 1 + word.length ≤ width then (line ++ ' ' :: word) :: others
    else word :: line :: others

/-- The lines of a text of at most so many characters, as far as its words allow. -/
def wrap (width : Nat) (text : List Char) : List (List Char) :=
  ((words text).foldl (addWord width) []).reverse

def spaces (count : Nat) : List Char :=
  List.replicate count ' '

namespace HelpEntry

/-- The column after the term and two spaces. -/
def width (e : HelpEntry) : Nat :=
  e.indent + e.term.length + 2

/-- The lines of an entry whose explanation begins in a column. -/
def lines (column : Nat) (e : HelpEntry) : List (List Char) :=
  let term := spaces e.indent ++ e.term.toList
  match e.explanation with
  | none => [term]
  | some explanation =>
    match wrap (lineWidth - column) explanation.toList with
    | [] => [term]
    | first :: others =>
      let below := others.map (spaces column ++ ·)
      if e.width ≤ column then (term ++ spaces (column - term.length) ++ first) :: below
      else term :: (spaces column ++ first) :: below

end HelpEntry

/-- Lines as one text, each with its end. -/
def unlines (lines : List (List Char)) : List Char :=
  lines.flatMap fun line => line ++ ['\n']

namespace HelpText

/-- The column in which explanations begin. -/
def column (h : HelpText) : Nat :=
  let widths := h.sections.flatMap fun s => s.entries.map HelpEntry.width
  min maxExplanationColumn (widths.foldl max 0)

/-- The lines of a section after an empty one. -/
def sectionLines (column : Nat) (s : HelpSection) : List (List Char) :=
  [] :: (s.heading ++ ":").toList :: s.entries.flatMap (HelpEntry.lines column)

/-- The whole text. -/
def text (h : HelpText) : String :=
  let description := match h.description with
    | some d => [] :: wrap lineWidth d.toList
    | none => []
  let body := description ++ h.sections.flatMap (sectionLines h.column)
  h.usage ++ String.ofList (unlines body)

end HelpText

end SlideMerge.Command
