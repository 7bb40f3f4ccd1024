/-
Fixed-point fields. A number is scaled by a power of ten in binary64
arithmetic and written with a given number of places or, without one, as
its shortest decimal. A text too wide for the field first gives up the
zero before its point, then becomes a run of the overflow character when
there is one, and stays as it is when there is none.
-/
import TildeFormat.Field.Padded

namespace TildeFormat

/-- A field a number is written into in fixed-point notation. -/
structure FixedField where
  width : Option Int := none
  digits : Option Int := none
  scale : Int := 0
  overflowchar : Option Text := none
  padchar : Text := [' ']
  sign : Bool := false
deriving DecidableEq

namespace FixedField

/-- The number times ten to the scale. The power has to have a value of
its own, whatever the number is. -/
def scaled (field : FixedField) (number : Binary64) :
    Except FixedFault Binary64 :=
  if field.scale = 0 then .ok number
  else
    match Binary64.tenTo? field.scale with
    | some factor => .ok (number.mul factor)
    | none => .error (.scaleBeyondRange number field.scale)

/-- The unsigned text of a magnitude. The number of places is bounded by
what its own numeral can hold. -/
def body (field : FixedField) (x : Magnitude) : Except FixedFault Text :=
  match field.digits with
  | none => .ok x.plainText
  | some places =>
    if places < 0 then .error .placesNegative
    else if 0x8000000000000000 ≤ places then .error .placesBeyondRange
    else if 0x80000000 ≤ places then .error .placesBeyondLimit
    else .ok (x.fixedText places.toNat)

/-- The sign that is written: a minus below zero, a plus elsewhere when
the field asks for it. A zero has no minus. -/
def signText (field : FixedField) (negative : Bool) (x : Magnitude) :
    Text :=
  if negative && x.units != 0 then ['-']
  else if field.sign then ['+'] else []

/-- A text that starts with a zero and a point, without the zero. -/
def withoutZero? : Text → Option Text
  | '0' :: '.' :: rest => some ('.' :: rest)
  | _ => none

/-- The signed text, fitted to the width. -/
def fit (field : FixedField) (sign body : Text) : Except Fault Text :=
  let text := sign ++ body
  match field.width with
  | none => .ok text
  | some width =>
    if (text.length : Int) ≤ width then padTo width text
    else
      match withoutZero? body with
      | some short =>
        if (text.length : Int) - 1 ≤ width then padTo width (sign ++ short)
        else overflow width text
      | none => overflow width text
where
  /-- The text behind its padding. -/
  padTo (width : Int) (text : Text) : Except Fault Text :=
    if (text.length : Int) < width then do
      return (← repeated field.padchar (width - text.length)) ++ text
    else .ok text
  /-- What stands for a text that does not fit. -/
  overflow (width : Int) (text : Text) : Except Fault Text :=
    match field.overflowchar with
    | some c => repeated c width
    | none => padTo width text

/-- The number in the field. -/
def draw (field : FixedField) (number : Binary64) : Except Fault Text :=
  if field.width.isSome && field.digits.isNone then
    .error (.fixed .widthWithoutDigits)
  else
    match field.scaled number with
    | .error fault => .error (.fixed fault)
    | .ok (.finite negative x) =>
      match field.body x with
      | .error fault => .error (.fixed fault)
      | .ok body => field.fit (field.signText negative x) body
    | .ok _ => .error (.fixed (.notFinite number field.scale))

end FixedField

end TildeFormat
