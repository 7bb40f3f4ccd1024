/-
Padding, the rule of the text directives: a text gets at least `minpad`
pad characters on one side, and then blocks of `colinc` of them until
the field is `mincol` wide.

The number of blocks is the ceiling of a quotient taken in binary64, so
it can differ from the exact one where the quotient rounds. A pad text
of any length may stand for the pad character.
-/
import TildeFormat.Fault

namespace TildeFormat

-- ============================================================== pieces

/-- The counts a text can be repeated by, negative ones giving nothing. -/
def countLimit : Int := 0x8000000000000000

/-- A text `count` times over; nothing when the count is negative, and a
fault when it has more than 63 binary digits. -/
def repeated (t : Text) (count : Int) : Except Fault Text :=
  if count < -countLimit ∨ countLimit ≤ count then
    .error .countBeyondRange
  else .ok (t.copies count.toNat)

/-- The ceiling of a quotient, the quotient rounded to binary64 first. -/
def roundedCeiling (num den : Int) : Except Fault Int :=
  if den = 0 then .error .divisionByZero
  else
    match Binary64.ofQuotient? num den with
    | some (.finite negative x) => .ok (Binary64.ceiling negative x)
    | _ => .error .quotientBeyondRange

/-- The least multiple of `step` that covers `shortfall`, as the rounded
quotient has it. -/
def blocks (shortfall step : Int) : Except Fault Int := do
  let count ← roundedCeiling shortfall step
  return count * step

-- =============================================================== field

/-- A field a text is padded into. -/
structure PaddedField where
  mincol : Int := 0
  colinc : Int := 1
  minpad : Int := 0
  padchar : Text := [' ']
  left : Bool := false
deriving DecidableEq

namespace PaddedField

/-- The number of pad characters for a text of `length` characters. -/
def padding (field : PaddedField) (length : Nat) : Except Fault Int :=
  let shortfall := field.mincol - length - field.minpad
  if 0 < shortfall then do
    return field.minpad + (← blocks shortfall field.colinc)
  else return field.minpad

/-- The text with its padding on the left or on the right. -/
def draw (field : PaddedField) (text : Text) : Except Fault Text := do
  let fill ← repeated field.padchar (← field.padding text.length)
  return if field.left then fill ++ text else text ++ fill

end PaddedField

end TildeFormat
