import SlideMerge.Merge.FilePath
import SlideMerge.Merge.Settings
import SlideMerge.Workbook.Upload

/-!
# Checking uploads

Before anything is read, both uploads have to be there, their names have to have a suffix of an
accepted kind, and neither may be too large. The first check that fails, in this order, is
reported. An upload without a name is taken for what it is asked to be.

How many bytes an upload has is told by a measure. That of the library, `Upload.size`, knows nothing
of the layout of workbooks, so the checks are given the measure as an argument.
-/

namespace SlideMerge.Merge

open Numeric Workbook

/-- The two files that a deck is generated from. -/
inductive InputRole
  | template
  | workbook
  deriving DecidableEq, Repr

namespace InputRole

/-- How the upload is called where a file is expected. -/
def fieldName : InputRole → String
  | template => "template"
  | workbook => "excel"

/-- How the upload is called where its size is at fault. -/
def label : InputRole → String
  | template => "Template"
  | workbook => "Excel file"

/-- The accepted suffixes. -/
def suffixes : InputRole → List String
  | template => [".pptx"]
  | workbook => [".xlsx", ".xls"]

end InputRole

/-- A file that is uploaded, with its name if that is known. -/
structure Input where
  upload : Option Upload
  filename : Option String

/-- Why uploads are rejected. -/
inductive InputFault
  | missing (role : InputRole)
  | wrongKind (role : InputRole)
  | tooLarge (role : InputRole) (size : Nat) (limit : Int)
  deriving DecidableEq, Repr

def InputFault.message : InputFault → String
  | missing role => s!"Missing '{role.fieldName}' file upload."
  | wrongKind .template => "Template must be a .pptx file."
  | wrongKind .workbook => "Excel must be a .xlsx or .xls file."
  | tooLarge role size limit =>
    let size := String.ofList (decimal size)
    let limit := String.ofList (decimalInt limit)
    s!"{role.label} is too large ({size} bytes, limit {limit} bytes)."

namespace Input

def content (i : Input) (role : InputRole) : Except InputFault Upload :=
  match i.upload with
  | none => .error (.missing role)
  | some upload => if upload.isEmpty then .error (.missing role) else .ok upload

/-- Whether a name ends in an accepted suffix, in any case. -/
def hasSuffix (role : InputRole) (filename : String) : Bool :=
  role.suffixes.contains (FilePath.ofText filename).suffix.toLower

def checkName (i : Input) (role : InputRole) : Except InputFault Unit :=
  let name := i.filename.getD ""
  if name = "" ∨ hasSuffix role name then .ok () else .error (.wrongKind role)

end Input

def checkSize (limit : Int) (role : InputRole) (size : Nat) : Except InputFault Unit :=
  if limit ≠ 0 ∧ limit < size then .error (.tooLarge role size limit) else .ok ()

/-- The uploads for a deck. -/
structure Inputs where
  template : Input
  workbook : Input

/-- The contents of accepted uploads. -/
structure Accepted where
  template : Upload
  workbook : Upload

namespace Inputs

/-- Checks uploads of so many bytes as the measure tells. -/
def checkBy (measure : Upload → Nat) (inputs : Inputs) (settings : Settings) :
    Except InputFault Accepted := do
  let template ← inputs.template.content .template
  let workbook ← inputs.workbook.content .workbook
  inputs.template.checkName .template
  inputs.workbook.checkName .workbook
  checkSize settings.maxUploadSize .template (measure template)
  checkSize settings.maxUploadSize .workbook (measure workbook)
  .ok ⟨template, workbook⟩

/-- Checks uploads. -/
def check (inputs : Inputs) (settings : Settings) : Except InputFault Accepted :=
  inputs.checkBy Upload.size settings

end Inputs

end SlideMerge.Merge
