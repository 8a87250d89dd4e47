import SlideMerge.Text.Encoding
import SlideMerge.Text.UpperCase
import SlideMerge.Web.Target
import SlideMerge.Workbook.Upload

/-!
# Requests

A request has a method, a target, headers, and a form of texts and files. `Request.check` refuses
those that cannot be sent: their target is none, or a header is not in ASCII. A form carries the
name of a file between quotes, so it does not arrive with all of its characters: `carriedName` is
what arrives.
-/

namespace SlideMerge.Web

open Text Workbook

structure UploadedFile where
  field : String
  filename : String
  content : Upload

/-- A request to the service. -/
structure Request where
  method : String
  target : String
  headers : List (String × String)
  fields : List (String × String)
  files : List UploadedFile

/-- Why a request cannot be sent. -/
inductive RequestFault
  | target (fault : TargetFault)
  | header (fault : Encoding.EncodeError)
  deriving DecidableEq, Repr

def RequestFault.message : RequestFault → String
  | target fault => fault.message
  | header fault => fault.message

/-- What a form holds under a name. -/
inductive FormValue
  | text (content : String)
  | file (content : Upload) (filename : String)

/-- The text in bytes: in UTF-8 if they are such a text, and else of one character for each byte. -/
def textOf (bytes : Bytes) : String :=
  match decodeUtf8 bytes with
  | .ok cs => String.ofList cs
  | .error _ => String.ofList (bytes.map fun b => Char.ofNat b.toNat)

/-- A character in the name of a file as a form carries it: quotes and control characters, of which
the escape character is none here, are escaped. -/
def carriedChar (c : Char) : List Char :=
  if c = '"' ∨ (c.toNat < 0x20 ∧ c ≠ '\x1b') then percentEscape (.ofNat c.toNat) else [c]

/-- Whether a name is a path that begins with a drive or with a host. -/
def beginsWithDevice : List Char → Bool
  | '\\' :: '\\' :: _ => true
  | c :: ':' :: '\\' :: _ => c.toNat < 0x80
  | _ => false

/-- The name of a file as a form carries it. Of a path that begins with a device only the last part
is taken. -/
def carriedName (name : String) : String :=
  let cs := name.toList.flatMap carriedChar
  String.ofList
    (if beginsWithDevice cs then (cs.reverse.takeWhile (· != '\\')).reverse else cs)

/-- What a form holds of an uploaded file: without a name it is a text. -/
def UploadedFile.value (f : UploadedFile) : FormValue :=
  if f.filename = "" then .text (textOf f.content.image)
  else .file f.content (carriedName f.filename)

namespace Request

/-- Checks that a header is in ASCII. -/
def checkHeader (header : String × String) : Except Encoding.EncodeError Unit := do
  let _ ← Encoding.ascii.encode header.1.toList
  let _ ← Encoding.ascii.encode header.2.toList

/-- The target of a request that can be sent. -/
def check (r : Request) : Except RequestFault Target := do
  let target ← (Target.read r.target).mapError .target
  (r.headers.forM checkHeader).mapError .header
  return target

/-- The method in upper case. -/
def verb (r : Request) : String :=
  String.ofList (upper r.method.toList)

/-- The value of a header, whose name may be in any case. -/
def header? (r : Request) (name : String) : Option String :=
  (r.headers.find? fun (other, _) => other.toLower = name).map (·.2)

/-- The form of a request: its texts and then its files. -/
def form (r : Request) : List (String × FormValue) :=
  r.fields.map (fun (name, text) => (name, .text text)) ++ r.files.map fun f => (f.field, f.value)

/-- The last value that a form holds under a name. An empty text is no value. -/
def formValue? (r : Request) (name : String) : Option FormValue :=
  match r.form.reverse.lookup name with
  | some (.text "") => none
  | value => value

end Request

end SlideMerge.Web
