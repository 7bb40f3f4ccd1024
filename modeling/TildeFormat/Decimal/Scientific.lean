/-
Decimal numbers as a coefficient and a power of ten, and the two ways
to write one: with the point among its digits, or with the point after
the first digit and an exponent.

Both writings start from the digits of the coefficient and the place of
the point, counted from their left end; the place may lie outside the
digits on either side, and zeros fill the way to it.
-/
import TildeFormat.Decimal.Numeral
import TildeFormat.Decimal.Power

namespace TildeFormat

/-- The number `coefficient * 10 ^ exponent`. -/
structure Scientific where
  coefficient : Nat
  exponent : Int
deriving DecidableEq

namespace Scientific

/-- The numerator of the number as a quotient of natural numbers. -/
def numerator (x : Scientific) : Nat :=
  x.coefficient * power 10 x.exponent.toNat

/-- The denominator of the number as a quotient of natural numbers. -/
def denominator (x : Scientific) : Nat :=
  power 10 (-x.exponent).toNat

/-- The number with as many trailing zeros of its coefficient moved into
the exponent as it has. -/
def trimmed (x : Scientific) : Scientific :=
  if h : x.coefficient ≠ 0 ∧ x.coefficient % 10 = 0 then
    trimmed ⟨x.coefficient / 10, x.exponent + 1⟩
  else x
termination_by x.coefficient
decreasing_by omega

/-- The place of the point, from the left end of the digits. -/
def point (x : Scientific) : Int :=
  (Numeral.digits x.coefficient).length + x.exponent

/-- The number with its point among the digits, at least one digit on
either side of it. -/
def positional (x : Scientific) : Text :=
  let ds := Numeral.digits x.coefficient
  let p := x.point
  if p ≤ 0 then
    '0' :: '.' :: (List.replicate (-p).toNat (.scalar '0') ++ ds)
  else if (ds.length : Int) ≤ p then
    ds ++ List.replicate (p.toNat - ds.length) (.scalar '0')
      ++ [.scalar '.', .scalar '0']
  else ds.take p.toNat ++ .scalar '.' :: ds.drop p.toNat

/-- The number with its point after the first digit and its exponent in
at least two digits behind an `e` and a sign. -/
def exponential (x : Scientific) : Text :=
  let ds := Numeral.digits x.coefficient
  let e := x.point - 1
  let mantissa :=
    match ds with
    | [] => []
    | [d] => [d]
    | d :: rest => d :: '.' :: rest
  mantissa ++ .scalar 'e' :: (if e < 0 then .scalar '-' else .scalar '+')
    :: Numeral.filled 2 e.natAbs

end Scientific

end TildeFormat
