import SlideMerge.Merge.FilePath
import SlideMerge.Text.Quoted
import SlideMerge.Workbook.Upload

/-!
# Files of a directory

The files that a command sees, by their paths below the directory in which it runs. Directories are
there as far as files are in them. Of what lies outside, no more is known than what every system
has: the directories above, up to the root, and the common ones below the root.
-/

namespace SlideMerge.Command

open Text Merge Workbook

/-- A file with the components of its path. -/
structure StoredFile where
  components : List String
  content : Upload

/-- Why a path leads nowhere. -/
inductive PathFault
  | noSuchDirectory
  | notADirectory
  | isADirectory
  | nameTooLong
  /-- The path holds a null character, which no path can. -/
  | nullCharacter
  deriving DecidableEq, Repr

/-- What a command can find out about the directory in which it runs: the file at a path, if one is
there, and why none can be written there. -/
structure Directory where
  read : FilePath → Except PathFault (Option Upload)
  writeFault? : FilePath → Option PathFault

/-- The files below a directory. -/
abbrev Files := List StoredFile

/-- What is at a place. -/
inductive Place
  | file (content : Upload)
  | directory
  | nothing

/-- A directory from which other places are reached. -/
inductive Base
  /-- The directory in which the command runs. -/
  | here
  /-- A directory above it. -/
  | above
  | root
  deriving DecidableEq, Repr

/-- A place, by the names that lead there from a directory. -/
structure Location where
  base : Base
  names : List String
  deriving DecidableEq, Repr

namespace Location

/-- The directory above a place; the root is above itself. -/
def parent (l : Location) : Location :=
  match l.names, l.base with
  | [], .root => l
  | [], _ => ⟨.above, []⟩
  | names, _ => { l with names := names.dropLast }

/-- The place with a name in a directory. -/
def child (l : Location) (name : String) : Location :=
  { l with names := l.names ++ [name] }

end Location

/-- The common directories below the root. -/
def rootDirectories : List String :=
  ["bin", "boot", "dev", "etc", "home", "lib", "media", "mnt", "opt", "proc", "root", "run", "sbin",
   "srv", "sys", "tmp", "usr", "var"]

/-- The largest number of bytes in the name of a file. -/
def maxNameSize : Nat := 255

/-- The largest number of bytes in a path. -/
def maxPathSize : Nat := 4095

namespace Files

def placeAt (files : Files) : Location → Place
  | ⟨_, []⟩ => .directory
  | ⟨.here, names⟩ =>
    match files.find? fun f => f.components = names with
    | some f => .file f.content
    | none => if files.any fun f => names.isPrefixOf f.components then .directory else .nothing
  | ⟨.root, [name]⟩ => if rootDirectories.contains name then .directory else .nothing
  | _ => .nothing

/-- Follows components from a place; two points lead to the directory above. -/
def follow (files : Files) (start : Location) : List String → Except PathFault Location
  | [] => .ok start
  | component :: rest =>
    match files.placeAt start with
    | .file _ => .error .notADirectory
    | .nothing => .error .noSuchDirectory
    | .directory =>
      if component = ".." then files.follow start.parent rest
      else if maxNameSize < component.utf8ByteSize then .error .nameTooLong
      else files.follow (start.child component) rest

/-- The place to which a path leads. -/
def locate (files : Files) (path : FilePath) : Except PathFault Location :=
  if '\x00' ∈ path.text.toList then .error .nullCharacter
  else if maxPathSize < path.text.utf8ByteSize then .error .nameTooLong
  else files.follow ⟨if path.root = "" then .here else .root, []⟩ path.components

/-- The file at a path. Where a path leads nowhere there is none, but a name that is too long cannot
even be looked for. -/
def read (files : Files) (path : FilePath) : Except PathFault (Option Upload) :=
  match files.locate path with
  | .ok location =>
    match files.placeAt location with
    | .file content => .ok (some content)
    | _ => .ok none
  | .error .nameTooLong => .error .nameTooLong
  | .error _ => .ok none

/-- Why no file can be written at a path, if so. -/
def writeFault? (files : Files) (path : FilePath) : Option PathFault :=
  match files.locate path with
  | .ok location =>
    match files.placeAt location with
    | .directory => some .isADirectory
    | _ => none
  | .error fault => some fault

/-- The directory that holds the files. -/
def directory (files : Files) : Directory where
  read := files.read
  writeFault? := files.writeFault?

end Files

/-- A path at which no file can be read or written. -/
structure FileFault where
  path : FilePath
  fault : PathFault
  deriving DecidableEq, Repr

def FileFault.message (f : FileFault) : String :=
  let path := quotedString f.path.text
  match f.fault with
  | .noSuchDirectory => s!"[Errno 2] No such file or directory: {path}"
  | .notADirectory => s!"[Errno 20] Not a directory: {path}"
  | .isADirectory => s!"[Errno 21] Is a directory: {path}"
  | .nameTooLong => s!"[Errno 36] File name too long: {path}"
  | .nullCharacter => "embedded null byte"

end SlideMerge.Command
