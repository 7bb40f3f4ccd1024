/-
The shortest decimal of a magnitude: the fewest digits that read back
as it, and of the decimals with that many digits the one nearest to it.

The search goes through the digit counts from one upwards. On the grid
of decimals with `count` digits only the two neighbours of the value
have to be tried: if any point of the grid reads back, so does one of
them, because what reads back is an interval around the value. The
search ends at the latest at the digit count where the value itself is
on the grid, for a value of `u` units is `u * 5 ^ 1074` steps of
10^-1074.
-/
import TildeFormat.Binary64.Basic
import TildeFormat.Decimal.Scientific

namespace TildeFormat.Magnitude

/-- A decimal reads back as `x` when `x` is the magnitude nearest to
it. -/
def readsBack (x : Magnitude) (d : Scientific) : Bool :=
  nearest? d.numerator d.denominator == some x

/-- The exponent of the leading decimal digit. No magnitude but zero is
below 10^-324, so the digits of its whole multiples of that count the
place. -/
def leadingExponent (x : Magnitude) : Int :=
  (Numeral.digits (x.units * power 10 324 / unitsPerOne)).length - 325

/-- The exact value of `x`, as a decimal. -/
def exact (x : Magnitude) : Scientific :=
  ⟨x.units * power 5 unitExponent, -unitExponent⟩

/-- The two neighbours of `x` on the grid of the multiples of
`10 ^ exponent`, the nearer one first; of two equally near ones the one
with the even last digit is first. -/
def neighbours (x : Magnitude) (exponent : Int) : List Scientific :=
  let num := x.units * power 10 (-exponent).toNat
  let den := unitsPerOne * power 10 exponent.toNat
  let below := num / den
  let near := divideNearest num den
  let far := if near = below then below + 1 else below
  [⟨near, exponent⟩, ⟨far, exponent⟩]

/-- The first decimal that reads back, over the grids from `exponent`
downwards. -/
def searchDown (x : Magnitude) : Nat → Int → Scientific
  | 0, _ => x.exact
  | grids + 1, exponent =>
    ((x.neighbours exponent).find? x.readsBack).getD
      (searchDown x grids (exponent - 1))

/-- The fewest digits that read back as `x`, nearest to it. -/
def shortest (x : Magnitude) : Scientific :=
  if x.units = 0 then ⟨0, 0⟩
  else
    let lead := x.leadingExponent
    (x.searchDown (lead + unitExponent + 1).toNat lead).trimmed

end TildeFormat.Magnitude
