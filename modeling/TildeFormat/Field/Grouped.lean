/-
Integers in base ten: digits, separated into groups from the right when
asked, behind a sign and padded on the left.
-/
import TildeFormat.Field.Padded

namespace TildeFormat

-- ============================================================ grouping

/-- A text cut into pieces of one character and `extra` more, the last
one as long as what is left. -/
def chunks (extra : Nat) : Text → List Text
  | [] => []
  | c :: t => (c :: t.take extra) :: chunks extra (t.drop extra)
termination_by t => t.length
decreasing_by
  simp only [List.length_drop, List.length_cons]
  omega

/-- The digits in groups of `interval`, counted from the right: the first
group takes what the others leave, and is full when they leave nothing.
A negative interval keeps all but that many last digits. -/
def groups (digits : Text) (interval : Int) : Except Fault (List Text) :=
  if interval = 0 then .error .moduloByZero
  else if 0 < interval then
    let size := interval.toNat
    let head :=
      if digits.length % size = 0 then size else digits.length % size
    .ok (digits.take head :: chunks (size - 1) (digits.drop head))
  else
    let surplus := (Int.fmod digits.length interval).natAbs
    let dropped := if surplus = 0 then interval.natAbs else surplus
    .ok [digits.take (digits.length - dropped)]

/-- The digits with a separator between their groups. -/
def grouped (digits separator : Text) (interval : Int) :
    Except Fault Text := do
  return Text.join separator (← groups digits interval)

-- =============================================================== field

/-- A field an integer is written into. -/
structure DecimalField where
  mincol : Int := 0
  padchar : Text := [' ']
  commachar : Text := [',']
  commaInterval : Int := 3
  commas : Bool := false
  sign : Bool := false
deriving DecidableEq

namespace DecimalField

/-- The sign that is written: a minus for negative numbers, a plus for
the others when the field asks for it. -/
def signText (field : DecimalField) (number : Int) : Text :=
  if number < 0 then ['-'] else if field.sign then ['+'] else []

/-- The digits that are written, separated when the field asks for it. -/
def body (field : DecimalField) (number : Int) : Except Fault Text :=
  let ds := Numeral.digits number.natAbs
  if field.commas then grouped ds field.commachar field.commaInterval
  else .ok ds

/-- The number, right-aligned in the width of the field. -/
def draw (field : DecimalField) (number : Int) : Except Fault Text := do
  let text := field.signText number ++ (← field.body number)
  if (text.length : Int) < field.mincol then
    return (← repeated field.padchar (field.mincol - text.length)) ++ text
  else return text

end DecimalField

end TildeFormat
