import SlideMerge.Text.Percent
import SlideMerge.Text.Quoted

/-!
# Targets of requests

A request names what it asks for as in `scheme://authority/path?query#fragment`. All parts may be
left out: a target with a scheme and a host is absolute, and any other is relative to the service,
below whose root its path begins. `Target.servedPath?` is the path that decides about the answer.
-/

namespace SlideMerge.Web

open Text

/-- The parts of a target that say what it asks for. -/
structure Target where
  scheme : List Char
  authority : List Char
  path : List Char
  deriving DecidableEq, Repr

/-- Why a text is no target. -/
inductive TargetFault
  | tooLong
  /-- A character of ASCII at a position cannot be printed. -/
  | unprintable (char : Char) (position : Nat)
  /-- A path without a scheme and an authority begins like an authority. -/
  | beginsWithSlashes
  /-- A path without a scheme and an authority begins like the end of a scheme. -/
  | beginsWithColon
  deriving DecidableEq, Repr

def TargetFault.message : TargetFault → String
  | tooLong => "URL too long"
  | unprintable char position =>
    let shown := quotedString (String.ofList [char])
    s!"Invalid non-printable ASCII character in URL, {shown} at position {position}."
  | beginsWithSlashes => "Relative URLs cannot have a path starting with '//'"
  | beginsWithColon => "Relative URLs cannot have a path starting with ':'"

/-- The most characters that a target may have. -/
def maxTargetLength : Nat := 65536

/-- Whether a character is one of ASCII that cannot be printed. -/
def isControl (c : Char) : Bool :=
  c.toNat < 0x20 || c.toNat = 0x7F

namespace Target

/-- Whether a character may be part of a scheme. -/
def isSchemeChar (c : Char) : Bool :=
  c.isAlphanum || c = '+' || c = '.' || c = '-'

/-- The scheme at the beginning of a text, and what follows its colon. A scheme begins with a
letter, and a colon alone has an empty one. -/
def splitScheme (cs : List Char) : List Char × List Char :=
  let scheme := cs.takeWhile isSchemeChar
  match cs.drop scheme.length with
  | ':' :: rest => if scheme.head?.all Char.isAlpha then (scheme, rest) else ([], cs)
  | _ => ([], cs)

/-- The authority that follows two slashes, and what follows it. -/
def splitAuthority : List Char → List Char × List Char
  | '/' :: '/' :: rest =>
    let authority := rest.takeWhile fun c => c != '/' && c != '?' && c != '#'
    (authority, rest.drop authority.length)
  | cs => ([], cs)

/-- The parts of a text. -/
def ofText (cs : List Char) : Target :=
  let (scheme, rest) := splitScheme cs
  let (authority, rest) := splitAuthority rest
  ⟨scheme, authority, rest.takeWhile fun c => c != '?' && c != '#'⟩

/-- The host: what follows the user in an authority, up to a port. -/
def host (t : Target) : List Char :=
  (t.authority.reverse.takeWhile (· != '@')).reverse.takeWhile (· != ':')

/-- Whether a target names the whole way to what it asks for. -/
def isAbsolute (t : Target) : Bool :=
  !t.scheme.isEmpty && !t.host.isEmpty

def isPath (t : Target) : Bool :=
  t.scheme.isEmpty && t.authority.isEmpty

def read (text : String) : Except TargetFault Target :=
  let cs := text.toList
  if maxTargetLength < cs.length then .error .tooLong
  else
    match cs.drop (cs.takeWhile fun c => !isControl c).length with
    | c :: rest => .error (.unprintable c (cs.length - rest.length - 1))
    | [] =>
      let t := ofText cs
      if t.isPath ∧ ['/', '/'].isPrefixOf t.path then .error .beginsWithSlashes
      else if t.isPath ∧ [':'].isPrefixOf t.path then .error .beginsWithColon
      else .ok t

/-- Adds a segment to those of a path, the last of which stands first. A point adds none, and two
points take the last one away, but never the empty one before the first slash. -/
def addSegment (segments : List (List Char)) (segment : List Char) : List (List Char) :=
  if segment = ['.'] then segments
  else if segment = ['.', '.'] then if segments = [[]] then segments else segments.tail
  else segment :: segments

/-- A path without segments of one or two points. -/
def withoutPoints (path : List Char) : List Char :=
  ['/'].intercalate ((path.splitOn '/').foldl addSegment []).reverse

/-- The path of a target at the service. -/
def resolvedPath (t : Target) : List Char :=
  let path := if t.isPath then t.path else withoutPoints t.path
  if t.isAbsolute then path else withoutPoints ('/' :: path.dropWhile (· == '/'))

/-- The path that a target asks for. Escapes are resolved twice: what the first time gives may hold
escapes again. There is no path if they give no text. -/
def servedPath? (t : Target) : Option (List Char) :=
  (unescapedText? t.resolvedPath).bind unescapedText?

end Target

end SlideMerge.Web
