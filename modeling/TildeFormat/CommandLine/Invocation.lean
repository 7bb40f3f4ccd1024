/-
What a command line asks for. Its operands are a template and arguments,
but only the first run of operands counts: those behind a later switch
are not recognized. A switch that needs a value takes the operand behind
it. The version and the usage are shown as soon as they are asked for,
so what comes after them does not matter.
-/
import TildeFormat.CommandLine.Files
import TildeFormat.CommandLine.Switch

namespace TildeFormat.CommandLine

/-- How the program is to run. -/
structure Invocation where
  template : Option Text := none
  arguments : List Text := []
  templateFile : Option Path := none
  argsFile : Option Path := none
  output : Option Path := none
  highlight : Bool := false
  verbosity : Nat := 1
deriving DecidableEq

/-- What a command line asks for. -/
inductive Request where
  | run (invocation : Invocation)
  | version
  | help

namespace Invocation

/-- The invocation with a value for a switch that takes one. -/
def setting (i : Invocation) (switch : Switch) (value : Text) :
    Invocation :=
  match switch with
  | .templateFile => { i with templateFile := some (.ofText value) }
  | .argsFile => { i with argsFile := some (.ofText value) }
  | .output => { i with output := some (.ofText value) }
  | _ => i

/-- The invocation under some switches without values, unless one of them
asks for something else. -/
def switching (i : Invocation) : List Switch → Except Request Invocation
  | [] => .ok i
  | .help :: _ => .error .help
  | .version :: _ => .error .version
  | .highlight :: switches => switching { i with highlight := true } switches
  | .verbosity :: switches =>
    switching { i with verbosity := i.verbosity + 1 } switches
  | _ :: switches => switching i switches

/-- The invocation with its operands: the template and then the
arguments. The divider is none of them, and the first argument that
looks like one is taken for it. -/
def withOperands (i : Invocation) : List Word → Invocation
  | .divider :: .operand t :: rest
  | .operand t :: .divider :: rest
  | .operand t :: rest =>
    { i with
      template := some t
      arguments := (rest.map Word.text).erase ['-', '-'] }
  | _ => i

end Invocation

/-- Where the operands that count are: not reached, being read, or behind
the reader. -/
inductive OperandRun where
  | ahead
  | inside
  | behind
deriving DecidableEq

/-- A reader of words: the invocation so far, the operands that count,
where they are, and the words that were not recognized. -/
structure WordReader where
  invocation : Invocation := {}
  run : OperandRun := .ahead
  operands : List Word := []
  unrecognized : List Text := []

namespace WordReader

/-- The reader past an operand or the divider. -/
def operand (r : WordReader) (w : Word) : WordReader :=
  match r.run with
  | .behind => { r with unrecognized := r.unrecognized ++ [w.text] }
  | _ => { r with run := .inside, operands := r.operands ++ [w] }

/-- The reader past the operands, if it was among them. -/
def pastOperands (r : WordReader) : WordReader :=
  if r.run = .inside then { r with run := .behind } else r

/-- The reader past a switch with its value. -/
def setting (r : WordReader) (switch : Switch) (value : Text) :
    WordReader :=
  { r.pastOperands with invocation := r.invocation.setting switch value }

/-- The reader past words that are not recognized. -/
def leaving (r : WordReader) (words : List Text) : WordReader :=
  { r.pastOperands with unrecognized := r.unrecognized ++ words }

/-- What the words ask for. -/
def read (r : WordReader) : List Word → Except UsageFault Request
  | [] =>
    if r.unrecognized.isEmpty then
      .ok (.run (r.invocation.withOperands r.operands))
    else .error (.unrecognized r.unrecognized)
  | .operand t :: words => read (r.operand (.operand t)) words
  | .divider :: words => read (r.operand .divider) words
  | .unknown t :: words => read (r.leaving [t]) words
  | .letters first more :: words =>
    match readLetters first more with
    | .error fault => .error fault
    | .ok (switches, left) =>
      match r.invocation.switching switches with
      | .error request => .ok request
      | .ok invocation =>
        read { r.leaving left.toList with invocation } words
  | .switch s value :: words =>
    if s.takesValue then
      match value, words with
      | some v, words => read (r.setting s v) words
      | none, .operand v :: words => read (r.setting s v) words
      | none, _ => .error (.valueMissing s)
    else
      match value, r.invocation.switching [s] with
      | some v, _ => .error (.valueUnused s v)
      | none, .error request => .ok request
      | none, .ok invocation =>
        read { r.pastOperands with invocation } words

end WordReader

/-- What a command line asks for. -/
def Request.ofTexts (texts : List Text) : Except UsageFault Request :=
  match Word.ofTexts texts with
  | .error fault => .error fault
  | .ok words => WordReader.read {} words

end TildeFormat.CommandLine
