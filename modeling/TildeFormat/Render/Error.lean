/-
Why a render is given up: a cause, the directive it struck and the place
it is blamed on. Each cause belongs to one of four families and has one
text. A cursor that runs out on its own blames no directive and no place.
-/
import TildeFormat.Render.Cursor
import TildeFormat.Template.Error

namespace TildeFormat

/-- Why a render is given up. The values a cause shows are texts, taken
when the cause arises. -/
inductive RenderCause where
  | cursorExhausted (number supplied : Nat)
  | exhausted (number supplied : Nat)
  | needsInteger (shown : Text)
  | needsNumber (shown : Text)
  | needsList (shown : Text)
  | paramType (slot : ParamSpec) (shown : Text)
  | paramMinimum (slot : ParamSpec) (got : Text)
  | unorderable (values : List ParamValue)
  | noProgress
  | unsupported (fault : FixedFault)
  | escapeOutside
deriving DecidableEq

/-- The families of causes. -/
inductive RenderFamily where
  | argumentExhausted
  | typeMismatch
  | unsupportedFormat
  | escapeOutsideConstruct
deriving DecidableEq

/-- The name of a family. -/
def RenderFamily.name : RenderFamily → String
  | argumentExhausted => "ArgumentExhaustedError"
  | typeMismatch => "TypeMismatchError"
  | unsupportedFormat => "UnsupportedFormatError"
  | escapeOutsideConstruct => "EscapeOutsideConstructError"

/-- A render error. -/
structure RenderError where
  cause : RenderCause
  position : Option Nat
  directive : Text
deriving DecidableEq

/-- The family of a cause. -/
def RenderCause.family : RenderCause → RenderFamily
  | cursorExhausted _ _ | exhausted _ _ => .argumentExhausted
  | needsInteger _ | needsNumber _ | needsList _ | paramType _ _
  | unorderable _ => .typeMismatch
  | paramMinimum _ _ | noProgress | unsupported _ => .unsupportedFormat
  | escapeOutside => .escapeOutsideConstruct

/-- The arguments that ran out: the one asked for and how many there
were. -/
def exhaustedText (number supplied : Nat) : Text :=
  word "argument " ++ Numeral.digits number
    ++ word " requested but only " ++ Numeral.digits supplied
    ++ word " supplied"

namespace RenderError

/-- The text of an error. -/
def message (error : RenderError) : Text :=
  let name := error.directive
  match error.cause with
  | .cursorExhausted number supplied => exhaustedText number supplied
  | .exhausted number supplied =>
    name ++ word " needs an argument but none remain ("
      ++ exhaustedText number supplied ++ [.scalar ')']
  | .needsInteger shown => name ++ word " needs an integer, got " ++ shown
  | .needsNumber shown => name ++ word " needs a number, got " ++ shown
  | .needsList shown =>
    name ++ word " needs a list argument, got " ++ shown
  | .paramType slot shown =>
    name ++ word " parameter '" ++ word slot.name ++ word "' must be "
      ++ word slot.type.name ++ word ", got " ++ shown
  | .paramMinimum slot got =>
    name ++ word " parameter '" ++ word slot.name
      ++ word "' must be at least " ++ minimumText slot.minimum
      ++ word ", got " ++ got
  | .unorderable values =>
    name ++ word " cannot order parameters "
      ++ bracketed '[' ']' (values.map ParamValue.displayed)
  | .noProgress =>
    name ++ word " body consumed no arguments, "
      ++ word "the loop would never end"
  | .unsupported fault =>
    name ++ ([':', ' '] : Text) ++ word fault.message
  | .escapeOutside =>
    name ++ word " outside any iteration or justification"

/-- The error with its place, if it has one. -/
def text (error : RenderError) : Text :=
  match error.position with
  | some position => locatedText error.message position
  | none => error.message

end RenderError

/-- Take the next argument off a cursor of its own. -/
def Cursor.advance (cursor : Cursor) :
    Except RenderError (Value × Cursor) :=
  match cursor.advance? with
  | some next => .ok next
  | none =>
    .error ⟨.cursorExhausted (cursor.consumed + 1) cursor.supplied,
      none, []⟩

/-- Take the next argument for a directive, blaming the directive and a
place when there is none. -/
def Cursor.take (cursor : Cursor) (directive : Text) (position : Nat) :
    Except RenderError (Value × Cursor) :=
  match cursor.advance? with
  | some next => .ok next
  | none =>
    .error ⟨.exhausted (cursor.consumed + 1) cursor.supplied,
      some position, directive⟩

end TildeFormat
