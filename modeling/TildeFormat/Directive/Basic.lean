/-
What a directive carries besides its character: modifiers, and
parameters with the way each gets its value. A parameter is written out,
left out, or taken when the directive is rendered: from the next
argument, or as the number of arguments left.
-/
import TildeFormat.Value.Form

namespace TildeFormat

-- ========================================================== modifiers

/-- The two modifiers, `:` and `@`, each there or not. -/
structure Modifiers where
  colon : Bool := false
  atSign : Bool := false
deriving DecidableEq

namespace Modifiers

/-- The modifiers as they are written, the colon first. -/
def text (m : Modifiers) : Text :=
  (if m.colon then [.scalar ':'] else [])
    ++ (if m.atSign then [.scalar '@'] else [])

/-- The modifiers of `m` that `allowed` does not have. -/
def without (m allowed : Modifiers) : Modifiers :=
  ⟨m.colon && !allowed.colon, m.atSign && !allowed.atSign⟩

/-- No modifier at all. -/
def isEmpty (m : Modifiers) : Bool := !m.colon && !m.atSign

end Modifiers

-- ========================================================= parameters

/-- A parameter value: none, an integer or a text, which is one character
wherever a template wrote it. -/
inductive ParamValue where
  | absent
  | integer (n : Int)
  | text (t : Text)
deriving DecidableEq

/-- The value an argument with this content would have. -/
def ParamValue.toValue : ParamValue → Value
  | absent => .nothing
  | integer n => .int n
  | text t => .str t

/-- Where a parameter gets its value. -/
inductive ParamSource where
  | omitted
  | integer (n : Int)
  | character (c : Character)
  | nextArgument
  | remaining
deriving DecidableEq

/-- A parameter and its place in the template. -/
structure Param where
  source : ParamSource
  position : Nat := 0
deriving DecidableEq

/-- The value of a parameter that is written out. -/
def ParamSource.literal? : ParamSource → Option ParamValue
  | integer n => some (.integer n)
  | character c => some (.text [c])
  | _ => none

/-- What every directive carries: parameters, modifiers and the place of
its tilde. -/
structure Clause where
  params : List Param := []
  modifiers : Modifiers := {}
  position : Nat := 0
deriving DecidableEq

-- ============================================================== kinds

/-- The directives that render in one step. -/
inductive Kind where
  | human
  | machine
  | decimal
  | fixed
  | skip
  | newline
  | tilde
deriving DecidableEq

/-- The character a kind is known by. -/
def Kind.letter : Kind → Character
  | human => 'A'
  | machine => 'S'
  | decimal => 'D'
  | fixed => 'F'
  | skip => '*'
  | newline => '%'
  | tilde => '~'

/-- A tilde and a character: the name of a directive in messages. -/
def directiveName (c : Character) : Text := ['~', c]

/-- The name of a kind in messages. -/
def Kind.name (kind : Kind) : Text := directiveName kind.letter

end TildeFormat
