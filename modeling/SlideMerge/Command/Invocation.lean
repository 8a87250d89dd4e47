import SlideMerge.Command.Argument
import SlideMerge.Command.Help
import SlideMerge.Merge.FilePath
import SlideMerge.Merge.Settings

/-!
# Invocations

The command line of the program has three commands: to serve, to generate a deck from two files, and
to list the mapping tables. `Invocation.read` turns arguments into an invocation, or into the text
to print where help is asked for or the arguments are refused.
-/

namespace SlideMerge.Command

open Numeric Merge

/-- What the program is asked to do. -/
inductive Invocation
  | serve (host : String) (port : Int) (reload : Bool)
  /-- Either of the two files may be left unnamed, by an operand without a text. -/
  | generate (template workbook : Option FilePath) (table : String) (output : Option FilePath)
  | listTables
  /-- No command is given. -/
  | noCommand
  deriving DecidableEq, Repr

def Invocation.inputs : Invocation → List FilePath
  | generate template workbook _ _ => template.toList ++ workbook.toList
  | _ => []

/-- An invocation with the level of messages that are logged. -/
structure Logged where
  level : String
  invocation : Invocation
  deriving DecidableEq, Repr

def programName : String := "deckfill"

inductive CommandName
  | serve
  | generate
  | mappingSets
  deriving DecidableEq, Repr

namespace CommandName

def all : List CommandName := [serve, generate, mappingSets]

def word : CommandName → String
  | serve => "serve"
  | generate => "generate"
  | mappingSets => "mapping-sets"

def ofWord? (s : String) : Option CommandName :=
  all.find? fun c => c.word = s

/-- What a command does. -/
def summary : CommandName → String
  | serve => "Start the web server"
  | generate => "Fill a template with values from a workbook"
  | mappingSets => "List the registered mapping sets"

end CommandName

/-! ## Grammars -/

def helpSwitch : Switch := ⟨"help", ["-h", "--help"], .help⟩

/-- The grammar of all arguments: those of a command are left to its own grammar. -/
def mainGrammar : Grammar where
  switches := [helpSwitch, ⟨"log_level", ["--log-level"], .text⟩]
  operands := [⟨"command", true⟩]

def CommandName.grammar : CommandName → Grammar
  | serve =>
    { switches :=
        [helpSwitch, ⟨"host", ["--host"], .text⟩, ⟨"port", ["--port"], .integer⟩,
         ⟨"reload", ["--reload"], .nothing⟩]
      operands := [] }
  | generate =>
    { switches :=
        [helpSwitch, ⟨"slide_type", ["--slide-type", "-t"], .text⟩,
         ⟨"output", ["--output", "-o"], .text⟩]
      operands := [⟨"template", false⟩, ⟨"workbook", false⟩] }
  | mappingSets => { switches := [helpSwitch], operands := [] }

/-! ## Help -/

/-- The usage line of the program. -/
def mainUsage : String :=
  "usage: deckfill [-h] [--log-level LOG_LEVEL] \x7bserve,generate,mapping-sets\x7d ...\n"

def CommandName.usage : CommandName → String
  | serve => "usage: deckfill serve [-h] [--host HOST] [--port PORT] [--reload]\n"
  | generate =>
    "usage: deckfill generate [-h] [--slide-type SLIDE_TYPE] [--output OUTPUT]\n" ++
      "                         template workbook\n"
  | mappingSets => "usage: deckfill mapping-sets [-h]\n"

/-- An entry of a section. -/
def entry (term explanation : String) : HelpEntry := ⟨2, term, some explanation⟩

/-- The entry of the switch that asks for help. -/
def helpEntry : HelpEntry := entry "-h, --help" "show this help message and exit"

/-- An explanation with the default of what it explains. -/
def withDefault (explanation value : String) : String :=
  s!"{explanation} (default: {value})"

/-- The help of the program. -/
def mainHelp : HelpText where
  usage := mainUsage
  description := some "DeckFill - Fill presentation templates with spreadsheet data"
  sections :=
    [⟨"positional arguments",
      entry "\x7bserve,generate,mapping-sets\x7d" "Available commands" ::
        CommandName.all.map fun c => ⟨4, c.word, some c.summary⟩⟩,
     ⟨"options",
      [helpEntry, entry "--log-level LOG_LEVEL" (withDefault "Logging level" "from LOG_LEVEL")]⟩]

def CommandName.help (settings : Settings) (c : CommandName) : HelpText where
  usage := c.usage
  description := none
  sections :=
    match c with
    | serve =>
      [⟨"options",
        [helpEntry, entry "--host HOST" (withDefault "Host to bind to" settings.host),
         entry "--port PORT"
          (withDefault "Port to bind to" (String.ofList (decimalInt settings.port))),
         entry "--reload" "Enable auto-reload for development"]⟩]
    | generate =>
      [⟨"positional arguments",
        [entry "template" "Path to the .pptx template",
         entry "workbook" "Path to the .xlsx/.xls workbook"]⟩,
       ⟨"options",
        [helpEntry,
         entry "--slide-type SLIDE_TYPE, -t SLIDE_TYPE"
          (withDefault "Mapping set id" settings.defaultTable),
         entry "--output OUTPUT, -o OUTPUT" (withDefault "Output path" settings.outputName)]⟩]
    | mappingSets => [⟨"options", [helpEntry]⟩]

/-! ## Reading arguments -/

/-- The text to print in place of an invocation. -/
inductive Notice
  /-- Help has been asked for. -/
  | help (text : String)
  /-- The arguments are refused. -/
  | refusal (text : String)
  deriving DecidableEq, Repr

/-- A refusal by the program or one of its commands. -/
def refusal (usage name : String) (fault : ArgumentFault) : Notice :=
  .refusal s!"{usage}{name}: error: {fault.message}\n"

/-- The notice for the end of the taking of arguments. -/
def noticeOf (help : HelpText) (name : String) : Stop → Notice
  | .help => .help help.text
  | .fault fault => refusal help.usage name fault

/-- The invocation of a command for what has been taken. -/
def CommandName.invocation (settings : Settings) (c : CommandName) (taken : Taken) : Invocation :=
  let text (key fallback : String) := (taken.values.find? key).getD fallback
  match c with
  | serve =>
    let port := match (taken.values.find? "port").map readInteger with
      | some (.ok n) => n
      | _ => settings.port
    .serve (text "host" settings.host) port (taken.values.find? "reload").isSome
  | generate =>
    let file (operand : Nat) := (taken.operands[operand]?.bind List.head?).map FilePath.ofText
    .generate (file 0) (file 1) (text "slide_type" settings.defaultTable)
      ((taken.values.find? "output").map .ofText)
  | mappingSets => .listTables

/-- Reads the arguments of a command, and what it leaves over. -/
def CommandName.read (settings : Settings) (c : CommandName) (arguments : List String) :
    Except Notice (Invocation × List String) := do
  let name := s!"{programName} {c.word}"
  let taken ← (c.grammar.take arguments).mapError (noticeOf (c.help settings) name)
  match (c.grammar.operands.drop taken.operands.length).map (·.name) with
  | [] => .ok (c.invocation settings taken, taken.leftOver)
  | missing => .error (refusal c.usage name (.missing missing))

/-- Reads the command in what has been taken, and what is left over in all. -/
def readCommand (settings : Settings) (taken : Taken) :
    Except Notice (Invocation × List String) :=
  match taken.operands with
  | (word :: arguments) :: _ =>
    match CommandName.ofWord? word with
    | some c => do
      let (invocation, leftOver) ← c.read settings arguments
      .ok (invocation, taken.leftOver ++ leftOver)
    | none =>
      let choices := CommandName.all.map CommandName.word
      .error (refusal mainUsage programName (.unknownChoice "command" word choices))
  | _ => .ok (.noCommand, taken.leftOver)

/-- Reads the arguments of the program. -/
def Logged.read (settings : Settings) (arguments : List String) : Except Notice Logged := do
  let taken ← (mainGrammar.take arguments).mapError (noticeOf mainHelp programName)
  let (invocation, leftOver) ← readCommand settings taken
  match leftOver with
  | [] => .ok ⟨(taken.values.find? "log_level").getD settings.logLevel, invocation⟩
  | _ => .error (refusal mainUsage programName (.leftOver leftOver))

end SlideMerge.Command
