/-
The words of a command line. A word is an operand unless it starts with
a dash and is neither a dash alone nor a negative number, has no blank
in it, and stands before the divider `--`; the divider itself is a word
of its own.

A switch may be written with any beginning of its long name that no
other one has, and with a value behind an equals sign. Switches of one
letter may stand together behind one dash.
-/
import TildeFormat.Text.DecimalDigit
import TildeFormat.Text.Quoted

namespace TildeFormat.CommandLine

-- ============================================================ switches

/-- The switches. -/
inductive Switch where
  | help
  | templateFile
  | argsFile
  | output
  | highlight
  | verbosity
  | version
deriving DecidableEq

namespace Switch

/-- The switches, in the order in which messages list them. -/
def all : List Switch :=
  [help, templateFile, argsFile, output, highlight, verbosity, version]

/-- The long name of a switch. -/
def name : Switch → String
  | help => "--help"
  | templateFile => "--templateFile"
  | argsFile => "--argsFile"
  | output => "--output"
  | highlight => "--highlight"
  | verbosity => "--verbosity"
  | version => "--version"

/-- The letter of a switch, if it has one. -/
def letter? : Switch → Option Char
  | help => some 'h'
  | verbosity => some 'v'
  | version => some 'V'
  | _ => none

/-- A switch as messages name it. -/
def label (s : Switch) : String :=
  match s.letter? with
  | some c => "-" ++ String.ofList [c] ++ "/" ++ s.name
  | none => s.name

/-- A switch that needs a value. -/
def takesValue : Switch → Bool
  | templateFile | argsFile | output => true
  | _ => false

/-- The switch of a letter. -/
def ofLetter? (c : Character) : Option Switch :=
  all.find? fun s => s.letter?.map .scalar == some c

/-- The switches a beginning of a long name may mean: the one whose name
it is, or all whose names start with it. -/
def named (beginning : Text) : List Switch :=
  match all.find? fun s => Text.ofString s.name == beginning with
  | some s => [s]
  | none =>
    all.filter fun s => beginning.isPrefixOf (Text.ofString s.name)

end Switch

-- ============================================================== faults

/-- What is wrong with a command line. -/
inductive UsageFault where
  | ambiguous (word : Text) (meanings : List Switch)
  | valueMissing (switch : Switch)
  | valueUnused (switch : Switch) (value : Text)
  | unrecognized (words : List Text)
deriving DecidableEq

/-- The text of a fault. -/
def UsageFault.text : UsageFault → Text
  | ambiguous word meanings =>
    Text.ofString "ambiguous option: " ++ word
      ++ Text.ofString " could match "
      ++ Text.join [',', ' '] (meanings.map fun s => Text.ofString s.name)
  | valueMissing switch =>
    Text.ofString ("argument " ++ switch.label
      ++ ": expected one argument")
  | valueUnused switch value =>
    Text.ofString ("argument " ++ switch.label
      ++ ": ignored explicit argument ") ++ value.displayed
  | unrecognized words =>
    Text.ofString "unrecognized arguments: " ++ Text.join [' '] words

-- =============================================================== words

/-- A word of a command line: an operand, the divider, a switch by its
long name, switches by their letters, or a switch that there is not. -/
inductive Word where
  | operand (t : Text)
  | divider
  | switch (s : Switch) (value : Option Text)
  | letters (first : Switch) (more : Text)
  | unknown (t : Text)
deriving DecidableEq

namespace Word

/-- A minus sign with digits behind it, or with a point among or in front
of them. A line feed may follow. -/
def isNegativeNumber : Text → Bool
  | '-' :: t =>
    let whole := t.takeWhile isDecimalDigit
    let rest := t.dropWhile isDecimalDigit
    let isEnd (t : Text) : Bool := t.isEmpty || t == [.scalar '\n']
    match rest with
    | '.' :: fraction =>
      fraction.head?.any isDecimalDigit
        && isEnd (fraction.dropWhile isDecimalDigit)
    | rest => !whole.isEmpty && isEnd rest
  | _ => false

/-- A word with a dash in front that is no switch: an operand when it is
a negative number or has a blank in it. -/
def withoutSwitch (t : Text) : Word :=
  if isNegativeNumber t || t.contains ' ' then .operand t else .unknown t

/-- What is behind the equals sign of a word, if it has one. -/
def value? (t : Text) : Option Text :=
  match List.dropWhile (· != .scalar '=') t with
  | [] => none
  | _ :: value => some value

/-- A word before the divider. -/
def ofText (t : Text) : Except UsageFault Word :=
  match t with
  | '-' :: '-' :: _ =>
    match Switch.named (t.takeWhile (· != .scalar '=')) with
    | [] => .ok (withoutSwitch t)
    | [s] => .ok (.switch s (value? t))
    | meanings => .error (.ambiguous t meanings)
  | '-' :: c :: more =>
    match Switch.ofLetter? c with
    | some s => .ok (.letters s more)
    | none => .ok (withoutSwitch t)
  | _ => .ok (.operand t)

/-- The words of a command line. -/
def ofTexts : List Text → Except UsageFault (List Word)
  | [] => .ok []
  | t :: ts =>
    if t = [.scalar '-', .scalar '-'] then .ok (.divider :: ts.map .operand)
    else
      match ofText t with
      | .error fault => .error fault
      | .ok word => (ofTexts ts).map (word :: ·)

/-- The text of a word that is no switch. -/
def text : Word → Text
  | operand t | unknown t => t
  | divider => ['-', '-']
  | _ => []

end Word

/-- The switches that stand together as letters, and what is left when
there is a letter of no switch. A value has no switch to go to. -/
def readLetters (first : Switch) :
    Text → Except UsageFault (List Switch × Option Text)
  | [] => .ok ([first], none)
  | '=' :: value => .error (.valueUnused first value)
  | c :: more =>
    if c = '-' then .error (.valueUnused first (c :: more))
    else
      match Switch.ofLetter? c with
      | none => .ok ([first], some ('-' :: c :: more))
      | some s =>
        (readLetters s more).map fun (switches, left) =>
          (first :: switches, left)

end TildeFormat.CommandLine
