import SlideMerge.Mapping.Registry
import SlideMerge.Plain.Check
import SlideMerge.Text.UpperCase

/-!
# Settings

The settings of the program have defaults, which variables of the environment replace. A truth
value of the environment is true only if it reads `true`, in any case; an empty list of origins
counts as none.
-/

namespace SlideMerge.Merge

open Text Numeric Plain

/-- The settings of the program. -/
structure Settings where
  host : String
  port : Int
  debug : Bool
  logLevel : String
  /-- The origins from which the service may be called. -/
  corsOrigins : List String
  /-- The id of the mapping table that is used unless a known one is asked for. -/
  defaultTable : String
  /-- The name of a generated deck that is given no other one. -/
  outputName : String
  /-- The most bytes that an uploaded file may have; zero means that there is no limit. -/
  maxUploadSize : Int
  deriving DecidableEq, Repr

namespace Settings

/-- The settings that go without saying. -/
def default : Settings where
  host := "127.0.0.1"
  port := 8000
  debug := false
  logLevel := "INFO"
  corsOrigins := ["*"]
  defaultTable := Mapping.defaultTableId
  outputName := "generated.pptx"
  maxUploadSize := 50 * 1024 * 1024

def integerVariable (environment : Keyed String) (name : String) (fallback : Int) :
    Except IntegerFault Int :=
  match environment.find? name with
  | some text => readInteger text
  | none => .ok fallback

/-- The origins in a variable, which holds them with commas between them. -/
def originsOf (fallback : List String) : Option String → List String
  | none => fallback
  | some text =>
    if text = "" then fallback else (text.toList.splitOn ',').map String.ofList

def ofEnvironment (environment : Keyed String) : Except IntegerFault Settings := do
  let text (name fallback : String) := (environment.find? name).getD fallback
  let port ← integerVariable environment "PORT" default.port
  let maxUploadSize ← integerVariable environment "MAX_UPLOAD_BYTES" default.maxUploadSize
  .ok
    { host := text "HOST" default.host
      port := port
      debug := (text "DEBUG" "false").toLower = "true"
      logLevel := String.ofList (upper (text "LOG_LEVEL" default.logLevel).toList)
      corsOrigins := originsOf default.corsOrigins (environment.find? "CORS_ALLOW_ORIGINS")
      defaultTable := text "DEFAULT_MAPPING_SET" default.defaultTable
      outputName := text "OUTPUT_FILENAME" default.outputName
      maxUploadSize := maxUploadSize }

/-- Settings from plain data, with defaults for the fields that are left out. -/
def check (fields : Keyed Data) : Checked Settings :=
  (Checked.both (optional fields "host" checkText default.host)
    (Checked.both (optional fields "port" checkInteger default.port)
      (Checked.both (optional fields "debug" checkLogical default.debug)
        (Checked.both (optional fields "log_level" checkText default.logLevel)
          (Checked.both
            (optional fields "cors_allow_origins" (checkList checkText) default.corsOrigins)
            (Checked.both (optional fields "default_mapping_set" checkText default.defaultTable)
              (Checked.both (optional fields "output_filename" checkText default.outputName)
                (optional fields "max_upload_bytes" checkInteger
                  default.maxUploadSize)))))))).map
    fun (host, port, debug, logLevel, origins, table, output, limit) =>
      ⟨host, port, debug, logLevel, origins, table, output, limit⟩

def toData (s : Settings) : Data :=
  .object
    [("host", .text s.host), ("port", .integer s.port), ("debug", .logical s.debug),
     ("log_level", .text s.logLevel), ("cors_allow_origins", .list (s.corsOrigins.map .text)),
     ("default_mapping_set", .text s.defaultTable), ("output_filename", .text s.outputName),
     ("max_upload_bytes", .integer s.maxUploadSize)]

end Settings

end SlideMerge.Merge
