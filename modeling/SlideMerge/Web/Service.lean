import SlideMerge.Merge.Generate
import SlideMerge.Web.Request

/-!
# The web service

The service answers three kinds of requests: to generate a deck from uploaded files, to list the
mapping tables, and to tell whether it is well. A path that is not known may have slashes too many
at its end. A request that names its origin is allowed to use the answer there. The answer to a
request for the head alone has no body.
-/

namespace SlideMerge.Web

open Plain Mapping Merge Workbook Deck

/-- The body of an answer. -/
inductive Body
  | data (value : Data)
  | text (content : String)
  | deck (archive : Archive)
  | nothing

/-- An answer of the service. -/
structure Response where
  status : Nat
  headers : List (String × String)
  body : Body

def deckType : String :=
  "application/vnd.openxmlformats-officedocument.presentationml.presentation"

def serviceName : String := "deckfill"

/-- The paths that the service answers. -/
inductive Route
  | generate
  | tables
  | health
  deriving DecidableEq, Repr

namespace Route

def all : List Route := [generate, tables, health]

def path : Route → String
  | generate => "/api/generate"
  | tables => "/api/mapping-sets"
  | health => "/api/health"

/-- The method that a route answers. -/
def method : Route → String
  | generate => "POST"
  | _ => "GET"

/-- The route of a path, which may have a line break at its end. -/
def ofPath? (path : List Char) : Option Route :=
  all.find? fun r => path = r.path.toList ∨ path = r.path.toList ++ ['\n']

end Route

def withoutSlashes (path : List Char) : List Char :=
  (path.reverse.dropWhile (· == '/')).reverse

def routeOf? (target : Target) : Option Route :=
  target.servedPath?.bind fun path =>
    (Route.ofPath? path).or (Route.ofPath? (withoutSlashes path))

/-- An answer of data. -/
def dataResponse (status : Nat) (headers : List (String × String)) (value : Data) : Response :=
  ⟨status, ("content-type", "application/json") :: headers, .data value⟩

/-- An answer of text. -/
def textResponse (status : Nat) (content : String) : Response :=
  ⟨status, [("content-type", "text/plain; charset=utf-8")], .text content⟩

/-- An answer that tells no more than what is wrong with a request. -/
def refusal (status : Nat) (headers : List (String × String)) (detail : String) : Response :=
  dataResponse status headers (.object [("detail", .text detail)])

/-- The table of the list of tables. -/
def tableData (t : Table) : Data :=
  .object
    [("id", .text t.id), ("label", .text t.label), ("description", .text t.description),
     ("page_count", .integer t.pages.length), ("token_count", .integer t.tokenCount)]

/-- The answer to a request for the tables. -/
def tablesResponse (settings : Settings) : Response :=
  dataResponse 200 []
    (.object
      [("default", .text settings.defaultTable), ("count", .integer registeredTables.length),
       ("mapping_sets", .list (registeredTables.map tableData))])

/-- The answer to a request for the state of the service. -/
def healthResponse (settings : Settings) : Response :=
  dataResponse 200 []
    (.object
      [("status", .text "ok"), ("service", .text serviceName),
       ("config", .object
        [("default_mapping_set", .text settings.defaultTable),
         ("output_filename", .text settings.outputName),
         ("max_upload_bytes", .integer settings.maxUploadSize)])])

/-- The file that a request uploads for an input. -/
def Request.input (r : Request) (role : InputRole) : Input :=
  match r.formValue? role.fieldName with
  | some (.file content filename) => ⟨some content, some filename⟩
  | _ => ⟨none, none⟩

/-- The id of the table that a request asks for. -/
def Request.table (r : Request) : String :=
  match r.formValue? "slideType" with
  | some (.text id) => id
  | _ => defaultTableId

/-- What is wrong with a text in place of the file for an input. -/
def misplacedText (role : InputRole) (content : String) : Data :=
  .object
    [("type", .text "value_error"), ("loc", .list [.text "body", .text role.fieldName]),
     ("msg", .text "Value error, Expected UploadFile, received: <class 'str'>"),
     ("input", .text content), ("ctx", .object [("error", .object [])])]

/-- What is wrong with the inputs of a request. -/
def Request.misplaced (r : Request) : List Data :=
  [InputRole.template, .workbook].filterMap fun role =>
    match r.formValue? role.fieldName with
    | some (.text content) => some (misplacedText role content)
    | _ => none

/-- The answer to a request for a deck. -/
def generateResponse (settings : Settings) (r : Request) : Response :=
  match r.misplaced with
  | [] =>
    let inputs : Inputs := ⟨r.input .template, r.input .workbook⟩
    let result := Merge.generate settings ⟨some r.table, inputs, none⟩
    match result.outcome with
    | .generated deck =>
      ⟨200,
        [("content-type", deckType),
         ("content-disposition", s!"attachment; filename=\"{result.filename}\"")],
        .deck deck.archive⟩
    | .rejected fault => textResponse 400 fault.message
    | .failed fault => textResponse 500 fault.message
  | details => dataResponse 422 [] (.object [("detail", .list details)])

def Route.respond (settings : Settings) (r : Request) (route : Route) : Response :=
  if r.verb ≠ route.method then refusal 405 [("allow", route.method)] "Method Not Allowed"
  else
    match route with
    | generate => generateResponse settings r
    | tables => tablesResponse settings
    | health => healthResponse settings

/-! ## Requests from other origins -/

/-- Allows the use of an answer where its request came from. -/
def allowance (origin : String) : List (String × String) :=
  [("access-control-allow-origin", origin), ("access-control-allow-credentials", "true")]

/-- The methods that a request from another origin may have. -/
def sharedMethods : List String :=
  ["DELETE", "GET", "HEAD", "OPTIONS", "PATCH", "POST", "PUT"]

/-- What a request from another origin asks for and is not allowed to do. -/
def disallowed (r : Request) (method : String) : List String :=
  (if sharedMethods.contains method then [] else ["method"]) ++
    if (r.header? "access-control-request-private-network").isSome then ["private-network"] else []

/-- The answer to the question what a request from another origin may do. -/
def permission (r : Request) (origin method : String) : Response :=
  let response := match disallowed r method with
    | [] => textResponse 200 "OK"
    | things =>
      let things := String.intercalate ", " things
      textResponse 400 s!"Disallowed CORS {things}"
  { response with headers := response.headers ++ allowance origin }

/-- Answers a request that does not come from another origin. -/
def respondDirectly (settings : Settings) (r : Request) (target : Target) : Response :=
  let response := match routeOf? target with
    | some route => route.respond settings r
    | none => refusal 404 [] "Not Found"
  if r.verb = "HEAD" then { response with body := .nothing } else response

def answer (settings : Settings) (r : Request) (target : Target) : Response :=
  match r.header? "origin", r.header? "access-control-request-method" with
  | none, _ => respondDirectly settings r target
  | some origin, asked =>
    match r.verb, asked with
    | "OPTIONS", some method => permission r origin method
    | _, _ =>
      let response := respondDirectly settings r target
      { response with
        headers := response.headers ++ allowance origin ++
          [("access-control-expose-headers", "Content-Disposition")] }

/-- Answers a request that can be sent. -/
def respond (settings : Settings) (r : Request) : Except RequestFault Response :=
  r.check.map (answer settings r)

end SlideMerge.Web
