/-
Specifications: what a directive accepts and what it does. A parameter
slot accepts integers, characters or both, and may bound its integers
from below; the bound is a matter of its own, so a value can be in range
without being accepted.
-/
import TildeFormat.Directive.Basic

namespace TildeFormat

-- ============================================================== slots

/-- The values a slot accepts. -/
inductive ParamType where
  | integer
  | character
  | any
deriving DecidableEq

/-- The name of a type in messages. -/
def ParamType.name : ParamType → String
  | integer => "integer"
  | character => "character"
  | any => "any"

/-- A parameter slot of a directive. -/
structure ParamSpec where
  name : String
  type : ParamType
  default : ParamValue := .absent
  minimum : Option Int := some 0
deriving DecidableEq

namespace ParamSpec

/-- The slot accepts a value of this type. A truth value is no integer
here, and a text counts as a character when it has just one. -/
def accepts (spec : ParamSpec) : Value → Bool
  | .int _ => spec.type != .character
  | .str [_] => spec.type != .integer
  | _ => false

/-- A number is at least the minimum; truth values count as numbers. -/
def inRange (spec : ParamSpec) (v : Value) : Bool :=
  let number? : Option Int :=
    match v with
    | .int n => some n
    | .truth b => some (if b then 1 else 0)
    | _ => none
  match number?, spec.minimum with
  | some n, some least => decide (least ≤ n)
  | _, _ => true

end ParamSpec

-- ===================================================== specifications

/-- How a directive takes part in the structure of a template. -/
inductive Category where
  | printing
  | numeric
  | control
  | structural
  | escape
  | whitespace
deriving DecidableEq

/-- The name of a category. -/
def Category.name : Category → String
  | printing => "printing"
  | numeric => "numeric"
  | control => "control"
  | structural => "structural"
  | escape => "escape"
  | whitespace => "whitespace"

/-- The specification of a directive. A directive that renders in one
step has a kind and an action; the action is that of a built-in kind,
not necessarily its own. -/
structure Spec where
  key : Text
  category : Category
  description : String
  params : List ParamSpec := []
  modifiers : Modifiers := {}
  kind : Option Kind := none
  action : Option Kind := none
  examples : List String := []
deriving DecidableEq

/-- The name of a directive in messages about its specification. -/
def Spec.name (spec : Spec) : Text := '~' :: spec.key

end TildeFormat
