import SlideMerge.Archive.Image
import SlideMerge.Workbook.Current
import SlideMerge.Workbook.Legacy
import SlideMerge.Workbook.Package

/-!
# Uploads

An upload is bytes, an archive, or a workbook of one of the two formats. Which of them a file is
shows in its content and not in its name: archives and workbooks of the current format begin with
one signature, workbooks of the legacy format with another.

How a workbook is laid out in bytes is not modelled. A file that can be read as a workbook is given
as one: by its bytes together with what is read from them. A file that is given as bytes or as an
archive alone stands for one from which no worksheet can be read; loading it fails, and the reason
is followed as far as the list of worksheets. As a template all three are the archive in their
bytes.

`loadFirstSheet` gives the snapshot of the first worksheet. Other worksheets have no influence on
it, except that a current workbook is unreadable if a cell on any of them is.
-/

namespace SlideMerge.Workbook

open Text Numeric Archive Format Sheet

inductive FileFormat
  | current
  | legacy
  deriving DecidableEq, Repr

/-- An uploaded file. -/
inductive Upload
  | bytes (content : Bytes)
  | archive (content : Archive)
  /-- A file that can be read as a workbook: what is read from it, and its bytes. -/
  | workbook (format : FileFormat) (content : StoredWorkbook) (image : Bytes)

def legacySignature : Bytes := [0xD0, 0xCF, 0x11, 0xE0, 0xA1, 0xB1, 0x1A, 0xE1]

namespace Upload

/-- Whether there is nothing in an upload. -/
def isEmpty : Upload → Bool
  | bytes content => content.isEmpty
  | _ => false

def image : Upload → Bytes
  | bytes content => content
  | archive content => toBytes content
  | workbook _ _ image => image

/-- The number of bytes of an upload. -/
def size (u : Upload) : Nat :=
  u.image.length

def toArchive : Upload → Except OpenFault Archive
  | bytes content => ofBytes content
  | archive content => content.asFound
  | workbook _ _ image => ofBytes image

end Upload

/-- Why there is no snapshot of an upload. -/
inductive LoadFault
  /-- The upload is no workbook. -/
  | notAWorkbook (label : String)
  /-- The upload cannot be read as the workbook that it begins as. -/
  | unreadable (label reason : String)
  | noWorksheets (label : String)
  /-- A cell has no display text. -/
  | display (fault : NumberFault)
  deriving DecidableEq, Repr

def LoadFault.message : LoadFault → String
  | notAWorkbook label => s!"{label} is not an Excel workbook"
  | unreadable label reason => s!"Could not read {label}: {reason}"
  | noWorksheets label => s!"{label} contains no worksheets"
  | display fault => fault.message

/-- Why a current workbook with an unreadable cell cannot be read. -/
def unreadableCell : String :=
  "Unable to read workbook: could not read worksheets from None.\n" ++
    "This is most probably because the workbook source files contain some invalid XML.\n" ++
    "Please see the exception for more details."

/-- Why bytes that begin as a legacy workbook cannot be read: the mark of their byte order is not in
its place. -/
def byteOrderFault (bytes : Bytes) : String :=
  let found := String.ofList (shownBytes ((bytes.drop 28).take 2))
  s!"Expected \"little-endian\" marker, found {found}"

/-- The snapshot of the first of several worksheets. -/
def firstSnapshot (label : String) (system : DateSystem) :
    List (String × List ReadCell) → Except LoadFault Snapshot
  | [] => .error (.noWorksheets label)
  | (title, cells) :: _ => (snapshotOf title system cells).mapError .display

/-- The snapshot of the first worksheet of a stored workbook. -/
def loadStored (label : String) (format : FileFormat) (stored : StoredWorkbook) :
    Except LoadFault Snapshot :=
  match format with
  | .current =>
    let sheets := stored.sheets.mapM fun sheet =>
      (sheet.readCurrent? stored.system).map (sheet.title, ·)
    match sheets with
    | some sheets => firstSnapshot label stored.system sheets
    | none => .error (.unreadable label unreadableCell)
  | .legacy =>
    firstSnapshot label stored.system
      (stored.sheets.map fun sheet => (sheet.title, sheet.readLegacy stored.system))

/-- Loads an archive that begins as one. -/
def loadPackage (label : String) (package : Except OpenFault Archive) : Except LoadFault Snapshot :=
  match package.mapError .archive >>= readPackage with
  | .ok () => .error (.noWorksheets label)
  | .error fault => .error (.unreadable label fault.message)

/-- How messages call a file that may have a name. -/
def labelOf (filename : Option String) : String :=
  let name := filename.getD ""
  if name = "" then "workbook" else name

/-- The snapshot of the first worksheet. Only an upload that is given as a workbook has one. -/
def loadFirstSheet (upload : Upload) (filename : Option String) : Except LoadFault Snapshot :=
  let label := labelOf filename
  match upload with
  | .workbook format stored _ => loadStored label format stored
  | .archive package =>
    if package.entries.isEmpty then .error (.notAWorkbook label)
    else loadPackage label package.asFound
  | .bytes content =>
    if entryMark.isPrefixOf content then loadPackage label (ofBytes content)
    else if legacySignature.isPrefixOf content then
      .error (.unreadable label (byteOrderFault content))
    else .error (.notAWorkbook label)

end SlideMerge.Workbook
