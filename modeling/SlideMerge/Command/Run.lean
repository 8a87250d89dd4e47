import SlideMerge.Command.Files
import SlideMerge.Command.Invocation
import SlideMerge.Merge.Generate

/-!
# Running commands

A run of the program prints to its two outputs, ends with an exit code, and may start a server or
write one file. It breaks off if the level of logged messages is not known, if an input is not
named, or if a file cannot be read or written.
-/

namespace SlideMerge.Command

open Text Numeric Mapping Merge

/-- A server to be started. -/
structure Server where
  host : String
  port : Int
  reload : Bool
  deriving DecidableEq, Repr

/-- What a run does. -/
structure Report where
  code : Nat
  output : String
  errors : String
  server : Option Server
  /-- The written deck with its path. -/
  written : Option (FilePath × Archive)

/-- Why a run breaks off. -/
inductive RunFault
  | unknownLevel (level : String)
  | unnamedInput
  | file (fault : FileFault)
  deriving DecidableEq, Repr

def RunFault.message : RunFault → String
  | unknownLevel level => s!"Unknown level: {quotedString level}"
  | unnamedInput => "'list' object has no attribute 'is_file'"
  | file fault => fault.message

/-- The levels of logged messages. -/
def levels : List String :=
  ["CRITICAL", "FATAL", "ERROR", "WARN", "WARNING", "INFO", "DEBUG", "NOTSET"]

def printing (code : Nat) (output errors : String) : Report :=
  ⟨code, output, errors, none, none⟩

def Notice.report : Notice → Report
  | help text => printing 0 text ""
  | refusal text => printing 2 "" text

/-- A table in the list of tables, with a mark if it is the default one. -/
def tableLine (settings : Settings) (t : Table) : String :=
  let mark := if t.id = settings.defaultTable then "*" else " "
  let id := t.id ++ String.ofList (spaces (12 - t.id.length))
  let slides := String.ofList (decimal t.pages.length)
  let tokens := String.ofList (decimal t.tokenCount)
  s!"{mark} {id} {t.label} ({slides} slides, {tokens} tokens)\n"

def tableList (settings : Settings) : String :=
  String.join (registeredTables.map (tableLine settings))

/-- Pages with commas between them. -/
def pageList (pages : List Nat) : String :=
  commaSeparated (pages.map fun page => String.ofList (decimal page))

/-- What is printed about a written deck. -/
def summary (output : FilePath) (table : String) (filled skipped : List Nat) : String :=
  let pages := if filled.isEmpty then "none" else pageList filled
  let absent := if skipped.isEmpty then "" else s!"  Not in template: {pageList skipped}\n"
  s!"Wrote {output.text} using mapping set '{table}'\n  Slides filled: {pages}\n{absent}"

/-- Why there is no input. -/
inductive Absence
  | unnamed
  | notFound (path : FilePath)
  | unreadable (fault : FileFault)
  deriving DecidableEq, Repr

/-- The end of a run that lacks an input. -/
def Absence.outcome : Absence → Except RunFault Report
  | unnamed => .error .unnamedInput
  | notFound path => .ok (printing 1 "" s!"File not found: {path.text}\n")
  | unreadable fault => .error (.file fault)

/-- The input at a path. -/
def Directory.input (directory : Directory) : Option FilePath → Except Absence Input
  | none => .error .unnamed
  | some path =>
    match directory.read path with
    | .ok (some upload) => .ok ⟨some upload, some path.name⟩
    | .ok none => .error (.notFound path)
    | .error fault => .error (.unreadable ⟨path, fault⟩)

/-- The two inputs at paths, the template first. -/
def Directory.inputs (directory : Directory) (template workbook : Option FilePath) :
    Except Absence Inputs := do
  return ⟨← directory.input template, ← directory.input workbook⟩

/-- Generates a deck from files. -/
def runGenerate (settings : Settings) (directory : Directory) (inputs : Inputs) (table : String)
    (output : FilePath) : Except RunFault Report :=
  let result := generate settings ⟨some table, inputs, some output.name⟩
  match result.outcome with
  | .generated deck =>
    match directory.writeFault? output with
    | none =>
      let text := summary output result.table deck.filled deck.skipped
      .ok ⟨0, text, "", none, some (output, deck.archive)⟩
    | some fault => .error (.file ⟨output, fault⟩)
  | .rejected fault => .ok (printing 1 "" s!"{fault.message}\n")
  | .failed fault => .ok (printing 1 "" s!"{fault.message}\n")

/-- Runs an invocation. -/
def Invocation.run (settings : Settings) (directory : Directory) :
    Invocation → Except RunFault Report
  | .serve host port reload => .ok ⟨0, "", "", some ⟨host, port, reload⟩, none⟩
  | .generate template workbook table output =>
    match directory.inputs template workbook with
    | .ok inputs =>
      runGenerate settings directory inputs table (output.getD (.ofText settings.outputName))
    | .error absence => absence.outcome
  | .listTables => .ok (printing 0 (tableList settings) "")
  | .noCommand => .ok (printing 1 mainHelp.text "")

/-- Runs the program with arguments. -/
def run (settings : Settings) (directory : Directory) (arguments : List String) :
    Except RunFault Report :=
  match Logged.read settings arguments with
  | .error notice => .ok notice.report
  | .ok logged =>
    let level := String.ofList (upper logged.level.toList)
    if levels.contains level then logged.invocation.run settings directory
    else .error (.unknownLevel level)

end SlideMerge.Command
