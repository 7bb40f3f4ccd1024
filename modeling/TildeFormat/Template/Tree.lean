/-
The tree of a template: what is left of it once its directives are
understood. Literal text and one-step directives are leaves; an
iteration holds its body, a justification its segments. A group is a
sequence standing where one node is expected: it renders as its items
do.
-/
import TildeFormat.Directive.Basic

namespace TildeFormat

/-- A node of a template. -/
inductive Node where
  | literal (text : Text) (position : Nat)
  | simple (kind : Kind) (clause : Clause)
  | iteration (body : List Node) (atLeastOnce : Bool) (clause : Clause)
  | justification (segments : List (List Node)) (clause : Clause)
  | escape (depth : Nat) (clause : Clause)
  | group (items : List Node)

/-- The two bracketed constructs. -/
inductive Shape where
  | iteration
  | justification
deriving DecidableEq

/-- The character that opens a construct. -/
def Shape.opener : Shape → Character
  | iteration => '\x7b'
  | justification => '<'

/-- The character that closes a construct. -/
def Shape.closer : Shape → Character
  | iteration => '\x7d'
  | justification => '>'

/-- The name of a construct in messages: that of its opener. -/
def Shape.name (shape : Shape) : Text := directiveName shape.opener

/-- The name of an escape in messages. -/
def escapeName : Text := directiveName '^'

end TildeFormat
