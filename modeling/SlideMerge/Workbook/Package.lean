import SlideMerge.Archive.Access
import SlideMerge.Text.Blank

/-!
# Workbook packages

A workbook of the current format is an archive whose manifest names the part that is the workbook.
An archive may fail to be one: its manifest may be missing or no markup, or name no workbook, or the
workbook may name a worksheet that is not there. The parts that make up a worksheet are not looked
into. So a package has no worksheets, or it fails for one of these reasons, or the reason lies in
those parts and is left open.
-/

namespace SlideMerge.Workbook

open Text Numeric Archive

def manifestName : String := "[Content_Types].xml"

/-- The name of the workbook part where the manifest gives none. -/
def defaultPart : String := "xl/workbook.xml"

/-- The types of a workbook part, in the order in which they are looked for. -/
def workbookTypes : List String :=
  ["application/vnd.ms-excel.template.macroEnabled.main+xml",
   "application/vnd.openxmlformats-officedocument.spreadsheetml.template.main+xml",
   "application/vnd.ms-excel.sheet.macroEnabled.main+xml",
   "application/vnd.openxmlformats-officedocument.spreadsheetml.sheet.main+xml"]

/-- A place in a text: the line counted from 1, and the column counted from 0. -/
structure Position where
  line : Nat
  column : Nat
  deriving DecidableEq, Repr

/-- Why a package is no workbook. -/
inductive PackageFault
  | archive (fault : OpenFault)
  | entry (fault : EntryFault)
  /-- There is no part of this name. -/
  | missing (name : String)
  /-- There is something other than markup at a place. -/
  | notMarkup (place : Position)
  /-- There is no markup up to the end of the text. -/
  | noMarkup (place : Position)
  | noWorkbookPart
  /-- A worksheet names a part that is not known. -/
  | unknownPart (id : String)
  /-- The parts of a worksheet, which are not looked into, cannot be read. -/
  | worksheet
  deriving DecidableEq, Repr

/-- A place in the words of a message. -/
def Position.text (p : Position) : String :=
  s!"line {String.ofList (decimal p.line)}, column {String.ofList (decimal p.column)}"

/-- The wording of a failure to read a package. Where the reason is left open, so is the wording. -/
def PackageFault.message : PackageFault → String
  | archive fault => fault.message
  | entry fault => fault.message
  | missing name => quotedString s!"There is no item named {quotedString name} in the archive"
  | notMarkup place => s!"syntax error: {place.text}"
  | noMarkup place => s!"no element found: {place.text}"
  | noWorkbookPart => "File contains no valid workbook part"
  | unknownPart id => quotedString id
  | worksheet => ""

/-! ## Markup -/

/-- What is wrong with the beginning of a text from a place on, unless it is markup. -/
def markupFault? (place : Position) : List Char → Option PackageFault
  | [] => some (.noMarkup place)
  | c :: rest =>
    if c = '<' then none
    else if c = '\n' then markupFault? ⟨place.line + 1, 0⟩ rest
    else if c = ' ' ∨ c = '\t' ∨ c = '\r' then markupFault? ⟨place.line, place.column + 1⟩ rest
    else some (.notMarkup place)

/-- The texts of the tags of markup. -/
def tags : List Char → List (List Char)
  | [] => []
  | c :: rest =>
    if c = '<' then rest.takeWhile (· != '>') :: tags (rest.dropWhile (· != '>')) else tags rest
termination_by text => text.length
decreasing_by
  all_goals
    have := (List.dropWhile_suffix (l := rest) (· != '>')).length_le
    simp only [List.length_cons]
    omega

/-- The name of a tag without the name of its space. -/
def tagName (tag : List Char) : List Char :=
  let name := tag.takeWhile fun c => !isBlank c && c != '/'
  (name.reverse.takeWhile (· != ':')).reverse

/-- The value of an attribute of a tag. -/
def attribute? (name : List Char) : List Char → Option (List Char)
  | [] => none
  | c :: rest =>
    if isBlank c ∧ (name ++ ['=', '"']) <+: rest then
      some ((rest.drop (name.length + 2)).takeWhile (· != '"'))
    else attribute? name rest

/-! ## Parts -/

def partText (package : Archive) (name : String) : Except PackageFault (List Char) :=
  match package.read? name with
  | none => .error (.missing name)
  | some (.error fault) => .error (.entry fault)
  | some (.ok data) =>
    let text := ((decodeUtf8 data).toOption.getD []).dropWhile (· == '\uFEFF')
    match markupFault? ⟨1, 0⟩ text with
    | some fault => .error fault
    | none => .ok text

def declaredParts (manifest : List Char) (type : String) : List String :=
  ((tags manifest).filter fun t =>
    tagName t = "Override".toList ∧ attribute? "ContentType".toList t = some type.toList).filterMap
      fun t => (attribute? "PartName".toList t).map fun name => String.ofList (name.drop 1)

/-- Whether a manifest declares that parts are workbooks unless they say otherwise. -/
def declaresDefault (manifest : List Char) : Bool :=
  (tags manifest).any fun t =>
    tagName t = "Default".toList ∧
      workbookTypes.any fun type => attribute? "ContentType".toList t = some type.toList

def workbookPart? (manifest : List Char) : Option String :=
  match workbookTypes.flatMap (declaredParts manifest) with
  | part :: _ => some part
  | [] => if declaresDefault manifest then some defaultPart else none

/-- The name of the part that lists what a part refers to. -/
def relationshipsName (part : String) : String :=
  let base := (part.toList.reverse.takeWhile (· != '/')).reverse
  let folder := part.toList.take (part.toList.length - base.length)
  String.ofList (folder ++ "_rels/".toList ++ base ++ ".rels".toList)

/-- The ids under which a part refers to others. -/
def relationshipIds (relationships : List Char) : List (List Char) :=
  ((tags relationships).filter fun t => tagName t = "Relationship".toList).filterMap
    (attribute? "Id".toList)

/-- Reads a package from which no worksheet can be read: there is none, or one is at fault. -/
def readPackage (package : Archive) : Except PackageFault Unit := do
  let package ← package.opened.mapError .archive
  let manifest ← partText package manifestName
  match workbookPart? manifest with
  | none => .error .noWorkbookPart
  | some part =>
    let text ← partText package part
    match (tags text).filter fun t => tagName t = "sheet".toList with
    | [] => .ok ()
    | sheet :: _ =>
      let relationships ← partText package (relationshipsName part)
      let id := (attribute? "r:id".toList sheet).getD []
      if id ∈ relationshipIds relationships then .error .worksheet
      else .error (.unknownPart (String.ofList id))

end SlideMerge.Workbook
