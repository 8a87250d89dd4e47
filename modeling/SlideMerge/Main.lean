import SlideMerge.Command.Run

/-!
# The program

Reads the environment and the files that the arguments name, runs the command, and does what its
report says. Serving needs a network, which is not part of this program: the command only tells
where it would serve.
-/

namespace SlideMerge.Program

open Merge Workbook Command

/-- The variables of the environment that hold settings. -/
def settingVariables : List String :=
  ["HOST", "PORT", "DEBUG", "LOG_LEVEL", "CORS_ALLOW_ORIGINS", "DEFAULT_MAPPING_SET",
   "OUTPUT_FILENAME", "MAX_UPLOAD_BYTES"]

/-- The variables that are set. -/
def environment : IO (Keyed String) := do
  let values ← settingVariables.mapM fun name => do return (← IO.getEnv name).map (name, ·)
  return values.filterMap id

/-- The file at a path, if it can be read. -/
def readFile (path : FilePath) : IO (Option (FilePath × Upload)) := do
  try
    let bytes ← IO.FS.readBinFile path.text
    return some (path, .bytes bytes.toList)
  catch _ => return none

/-- Does what a report says, and gives its exit code. -/
def perform (report : Report) : IO UInt32 := do
  if let some (path, archive) := report.written then
    IO.FS.writeBinFile path.text ⟨(Archive.toBytes archive).toArray⟩
  IO.print report.output
  IO.eprint report.errors
  if let some server := report.server then
    IO.println s!"Would serve at {server.host}:{server.port}"
  return .ofNat report.code

/-- Runs the program with settings. -/
def runWith (settings : Settings) (arguments : List String) : IO UInt32 := do
  let paths := match Logged.read settings arguments with
    | .ok logged => logged.invocation.inputs
    | .error _ => []
  let files := (← paths.mapM readFile).filterMap id
  let directory : Directory := ⟨fun path => .ok (files.lookup path), fun _ => none⟩
  match run settings directory arguments with
  | .ok report => perform report
  | .error fault =>
    IO.eprintln fault.message
    return 1

end SlideMerge.Program

open SlideMerge

/-- Runs the program. -/
def main (arguments : List String) : IO UInt32 := do
  match Merge.Settings.ofEnvironment (← Program.environment) with
  | .ok settings => Program.runWith settings arguments
  | .error fault =>
    IO.eprintln fault.message
    return 1
