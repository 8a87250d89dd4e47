import SlideMerge.Keyed
import SlideMerge.Numeric.Numeral

/-!
# Command-line arguments

A grammar of arguments has switches and operands. A switch is named by words that begin with one or
two hyphens; it stands alone or takes a value, as the next argument or, after `=`, in the same one.
A name with two hyphens may be cut short as long as one switch is meant, and one with one hyphen
may have its value, or further such names, directly after it. Operands are taken in their order
from what is left; the last of them may take everything that follows. Two hyphens alone separate:
after them nothing is a switch. They belong to the operand before or after them, without being its
value. What no switch and no operand takes is left over.

Arguments are told apart first and taken then from left to right, up to a request for help or the
first fault.
-/

namespace SlideMerge.Command

open Text Numeric

/-- What a switch takes. -/
inductive SwitchValue
  /-- Nothing: the switch asks for help. -/
  | help
  /-- Nothing: the switch is on or off. -/
  | nothing
  | text
  | integer
  deriving DecidableEq, Repr

structure Switch where
  /-- The key of its value. -/
  key : String
  names : List String
  value : SwitchValue
  deriving DecidableEq, Repr

namespace Switch

/-- The switch in the words of a message. -/
def label (s : Switch) : String :=
  String.intercalate "/" s.names

def takesValue (s : Switch) : Bool :=
  s.value = .text || s.value = .integer

end Switch

structure Operand where
  name : String
  /-- Whether it takes everything that follows. -/
  takesRest : Bool
  deriving DecidableEq, Repr

structure Grammar where
  switches : List Switch
  operands : List Operand
  deriving DecidableEq, Repr

inductive ArgumentFault
  | ambiguous (argument : String) (names : List String)
  | noValue (label : String)
  | ignoredValue (label value : String)
  | notAnInteger (label value : String)
  | unknownChoice (label value : String) (choices : List String)
  | missing (names : List String)
  | leftOver (arguments : List String)
  deriving DecidableEq, Repr

def commaSeparated (texts : List String) : String :=
  String.intercalate ", " texts

def ArgumentFault.message : ArgumentFault → String
  | ambiguous argument names =>
    s!"ambiguous option: {argument} could match {commaSeparated names}"
  | noValue label => s!"argument {label}: expected one argument"
  | ignoredValue label value =>
    s!"argument {label}: ignored explicit argument {quotedString value}"
  | notAnInteger label value => s!"argument {label}: invalid int value: {quotedString value}"
  | unknownChoice label value choices =>
    let choices := commaSeparated (choices.map quotedString)
    s!"argument {label}: invalid choice: {quotedString value} (choose from {choices})"
  | missing names => s!"the following arguments are required: {commaSeparated names}"
  | leftOver arguments => "unrecognized arguments: " ++ String.intercalate " " arguments

/-! ## Telling arguments apart -/

/-- A switch that an argument names, with the name in full and what stands after the name in the
argument. -/
structure Named where
  switch : Switch
  name : String
  tail : List Char
  deriving DecidableEq, Repr

inductive Kind
  | plain
  | named (n : Named)
  /-- It looks like a switch but is none. -/
  | unknown
  /-- Two hyphens alone. -/
  | separator
  deriving DecidableEq, Repr

def Grammar.names (g : Grammar) : List (String × Switch) :=
  g.switches.flatMap fun s => s.names.map fun name => (name, s)

/-- The part of an argument before the first `=`, and the part that begins with it. -/
def splitValue (argument : String) : String × List Char :=
  let name := argument.toList.takeWhile (· != '=')
  (String.ofList name, argument.toList.drop name.length)

/-- The names that an argument may be short for. -/
def Grammar.candidates (g : Grammar) (argument : String) : List Named :=
  match argument.toList with
  | '-' :: '-' :: _ =>
    let (start, tail) := splitValue argument
    (g.names.filter fun (name, _) => start.toList.isPrefixOf name.toList).map
      fun (name, s) => ⟨s, name, tail⟩
  | '-' :: c :: tail =>
    g.names.filterMap fun (name, s) =>
      if name.toList = ['-', c] then some ⟨s, name, tail⟩
      else if argument.toList.isPrefixOf name.toList then some ⟨s, name, []⟩
      else none
  | _ => []

/-- A negative number: a hyphen and digits, with a point before the last of them or without. -/
def isNegativeNumber (argument : List Char) : Bool :=
  match argument with
  | '-' :: rest =>
    let whole := rest.takeWhile isDigit
    match rest.drop whole.length with
    | [] => !whole.isEmpty
    | ['\n'] => !whole.isEmpty
    | '.' :: fraction =>
      let digits := fraction.takeWhile isDigit
      !digits.isEmpty &&
        (fraction.drop digits.length == [] || fraction.drop digits.length == ['\n'])
    | _ => false
  | _ => false

/-- What an argument is that begins with a hyphen and is no name in full. -/
def Grammar.kindOfCandidate (g : Grammar) (argument : String) : Except ArgumentFault Kind :=
  match g.candidates argument with
  | [n] => .ok (.named n)
  | [] =>
    if isNegativeNumber argument.toList ∨ ' ' ∈ argument.toList then .ok .plain else .ok .unknown
  | ns => .error (.ambiguous argument (ns.map (·.name)))

def Grammar.kindOf (g : Grammar) (argument : String) : Except ArgumentFault Kind :=
  match argument.toList with
  | '-' :: _ :: _ =>
    match g.names.lookup argument with
    | some s => .ok (.named ⟨s, argument, []⟩)
    | none =>
      let (name, tail) := splitValue argument
      match g.names.lookup name with
      | some s => .ok (.named ⟨s, name, tail⟩)
      | none => g.kindOfCandidate argument
  | _ => .ok .plain

/-- Tells arguments apart. -/
def Grammar.kinds (g : Grammar) : List String → Except ArgumentFault (List (String × Kind))
  | [] => .ok []
  | argument :: rest =>
    if argument = "--" then
      .ok ((argument, .separator) :: rest.map fun a => (a, .plain))
    else do
      let kind ← g.kindOf argument
      .ok ((argument, kind) :: (← g.kinds rest))

/-! ## Taking arguments -/

/-- What has been taken so far. -/
structure Taken where
  /-- The values of switches under their keys. -/
  values : Keyed String
  /-- The values of operands. -/
  operands : List (List String)
  leftOver : List String
  deriving DecidableEq

/-- How the taking of arguments ends early. -/
inductive Stop
  | help
  | fault (fault : ArgumentFault)
  deriving DecidableEq, Repr

def Switch.take (s : Switch) (value : String) (taken : Taken) : Except Stop Taken :=
  match s.value with
  | .help => .error .help
  | .integer =>
    match readInteger value with
    | .ok _ => .ok { taken with values := taken.values.put s.key value }
    | .error _ => .error (.fault (.notAnInteger s.label value))
  | _ => .ok { taken with values := taken.values.put s.key value }

/-- The end of the switches that one argument names. -/
inductive ChainEnd
  /-- A switch, with its value if that is in the argument. -/
  | switch (s : Switch) (value : Option String)
  /-- Characters that name no switch, behind a hyphen. -/
  | unknown (argument : String)
  deriving DecidableEq, Repr

/-- The switches that one argument names. -/
structure Chain where
  /-- Those without a value, except for the end. -/
  switches : List Switch
  ending : ChainEnd
  deriving DecidableEq, Repr

/-- The switches of an argument from one of them on, given what stands after its name. After `=`
there is a value; without, a switch that takes a value has it there, and one that takes none is
followed by the names of further switches, of one character each. -/
def Grammar.chainFrom (g : Grammar) (s : Switch) : List Char → Except ArgumentFault Chain
  | [] => .ok ⟨[], .switch s none⟩
  | c :: tail =>
    let value := String.ofList (if c = '=' then tail else c :: tail)
    if s.takesValue then .ok ⟨[], .switch s (some value)⟩
    else if c = '=' ∨ c = '-' then .error (.ignoredValue s.label value)
    else
      match g.names.lookup (String.ofList ['-', c]) with
      | none => .ok ⟨[s], .unknown (String.ofList ('-' :: c :: tail))⟩
      | some next => do
        let chain ← g.chainFrom next tail
        .ok { chain with switches := s :: chain.switches }

/-- Takes switches without values. -/
def takeSwitches (switches : List Switch) (taken : Taken) : Except Stop Taken :=
  switches.foldlM (fun taken s => s.take "" taken) taken

def Taken.leave (taken : Taken) (argument : String) : Taken :=
  { taken with leftOver := taken.leftOver ++ [argument] }

/-- Gives the next operand its texts. -/
def Taken.fill (taken : Taken) (texts : List String) : Taken :=
  { taken with operands := taken.operands ++ [texts] }

/-- What stands before an argument. -/
inductive Before
  /-- An operand, to which a separator then belongs. -/
  | operand
  /-- A separator that belongs to the operand to come. -/
  | separator
  | other
  deriving DecidableEq, Repr

/-- The texts of an operand of one argument. A separator elsewhere does not turn two hyphens into a
value, so they leave the operand empty. -/
def operandTexts (before : Before) (argument : String) : List String :=
  if argument = "--" ∧ before ≠ .separator then [] else [argument]

/-- Takes arguments from left to right. -/
def Grammar.takeFrom (g : Grammar) (before : Before) (taken : Taken) :
    List (String × Kind) → Except Stop Taken
  | [] => .ok taken
  | (argument, kind) :: rest =>
    match kind with
    | .unknown => g.takeFrom .other (taken.leave argument) rest
    | .separator =>
      match before, g.operands.drop taken.operands.length, rest with
      | .operand, _, _ => g.takeFrom .other taken rest
      | _, operand :: _, _ :: _ =>
        if operand.takesRest then .ok (taken.fill (argument :: rest.map (·.1)))
        else g.takeFrom .separator taken rest
      | _, _, _ => g.takeFrom .other (taken.leave argument) rest
    | .plain =>
      match g.operands.drop taken.operands.length with
      | [] => g.takeFrom .other (taken.leave argument) rest
      | operand :: _ =>
        if operand.takesRest then .ok (taken.fill (argument :: rest.map (·.1)))
        else g.takeFrom .operand (taken.fill (operandTexts before argument)) rest
    | .named n =>
      match g.chainFrom n.switch n.tail with
      | .error fault => .error (.fault fault)
      | .ok ⟨switches, .unknown argument⟩ => do
        g.takeFrom .other (← takeSwitches switches (taken.leave argument)) rest
      | .ok ⟨switches, .switch last (some value)⟩ => do
        g.takeFrom .other (← last.take value (← takeSwitches switches taken)) rest
      | .ok ⟨switches, .switch last none⟩ =>
        if last.takesValue then
          match rest with
          | (value, .plain) :: rest => do
            g.takeFrom .other (← last.take value (← takeSwitches switches taken)) rest
          | _ => .error (.fault (.noValue last.label))
        else do
          g.takeFrom .other (← last.take "" (← takeSwitches switches taken)) rest

def Grammar.take (g : Grammar) (arguments : List String) : Except Stop Taken := do
  let kinds ← (g.kinds arguments).mapError .fault
  g.takeFrom .other ⟨[], [], []⟩ kinds

end SlideMerge.Command
