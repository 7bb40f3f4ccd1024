/-
Faults: what can go wrong outside the errors a template or its arguments
are blamed for. A field primitive faults on parameters it has no answer
for, a conversion on a number beyond the range of its target, and a
reader on a word that has the form of a value but stands for none.

A fault of the fixed-point field alone is also reported as an error of
the directive that asked for the field, so it has a type of its own.
-/
import TildeFormat.Binary64.Notation
import TildeFormat.Calendar

namespace TildeFormat

/-- Why a value has no fixed-point text. -/
inductive FixedFault where
  | widthWithoutDigits
  | scaleBeyondRange (number : Binary64) (scale : Int)
  | notFinite (number : Binary64) (scale : Int)
  | placesNegative
  | placesBeyondLimit
  | placesBeyondRange
deriving DecidableEq

/-- The text of a fixed-point fault. -/
def FixedFault.message : FixedFault → String
  | widthWithoutDigits =>
    "a field width needs an explicit digit count "
      ++ "(adaptive ~wF is not supported)"
  | scaleBeyondRange number scale =>
    "scaling " ++ number.text.string ++ " by 10**"
      ++ (Numeral.integer scale).string ++ " overflows"
  | notFinite number scale =>
    "cannot render " ++ number.text.string ++ " scaled by 10**"
      ++ (Numeral.integer scale).string ++ " in fixed notation"
  | placesNegative => "Format specifier missing precision"
  | placesBeyondLimit => "precision too big"
  | placesBeyondRange => "Too many decimal digits in format string"

/-- A fault outside the error families of templates and renders. -/
inductive Fault where
  | fixed (fault : FixedFault)
  | integerBeyondRange
  | quotientBeyondRange
  | countBeyondRange
  | divisionByZero
  | moduloByZero
  | slotCount (expected given : Nat)
  | slotMissing
  | slotType
  | noRendering
  | emptyNumeral (base : Nat)
  | codeBeyondRange
  | codeBeyondWord
  | calendar (fault : CalendarFault)
deriving DecidableEq

/-- The family of a fault, by what it is about. -/
inductive FaultFamily where
  | value
  | range
  | division
  | index
  | type
deriving DecidableEq

namespace Fault

/-- The family a fault belongs to. -/
def family : Fault → FaultFamily
  | fixed _ | slotCount _ _ | emptyNumeral _ | codeBeyondRange
  | calendar _ => .value
  | integerBeyondRange | quotientBeyondRange | countBeyondRange
  | codeBeyondWord => .range
  | divisionByZero | moduloByZero => .division
  | slotMissing => .index
  | slotType | noRendering => .type

/-- The text of a fault. -/
def message : Fault → String
  | fixed fault => fault.message
  | integerBeyondRange => "int too large to convert to float"
  | quotientBeyondRange => "integer division result too large for a float"
  | countBeyondRange => "cannot fit 'int' into an index-sized integer"
  | divisionByZero => "division by zero"
  | moduloByZero => "integer modulo by zero"
  | slotCount expected given =>
    if given < expected then
      "not enough values to unpack (expected "
        ++ toString expected ++ ", got " ++ toString given ++ ")"
    else
      "too many values to unpack (expected " ++ toString expected ++ ")"
  | slotMissing => "list index out of range"
  | slotType => "unsupported operand type"
  | noRendering => "'NoneType' object is not callable"
  | emptyNumeral base =>
    "invalid literal for int() with base " ++ toString base ++ ": ''"
  | codeBeyondRange => "chr() arg not in range(0x110000)"
  | codeBeyondWord => "Python int too large to convert to C int"
  | calendar fault => fault.message

end Fault

end TildeFormat
