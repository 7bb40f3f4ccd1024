/-
The written forms of a binary64 value.

- `text`: the shortest decimal, in positional notation while the point
  stands less than four places before the digits and at most sixteen
  after their start, and with an exponent outside of that.
- `plainText`: the shortest decimal, always positional.
- `fixedText`: rounded to a number of places, the exact binary value
  deciding and a tie going to the even last digit.

What is not finite is written by name; `plainText` gives even these a
fraction part, as it does to whatever text has no point.
-/
import TildeFormat.Binary64.Shortest

namespace TildeFormat

namespace Magnitude

/-- The shortest decimal, positional or with an exponent. -/
def text (x : Magnitude) : Text :=
  let d := x.shortest
  if -4 < d.point ∧ d.point ≤ 16 then d.positional else d.exponential

/-- The shortest decimal, positional. -/
def plainText (x : Magnitude) : Text := x.shortest.positional

/-- The multiple of `10 ^ -places` nearest to the exact value, as the
number of such steps; a tie goes to the even one. -/
def stepsAt (places : Nat) (x : Magnitude) : Nat :=
  divideNearest (x.units * power 10 places) unitsPerOne

/-- The value rounded to `places` digits after the point; the point is
written even when no digit follows it. -/
def fixedText (places : Nat) (x : Magnitude) : Text :=
  let steps := x.stepsAt places
  let fraction :=
    if places = 0 then []
    else Numeral.filled places (steps % power 10 places)
  Numeral.digits (steps / power 10 places) ++ .scalar '.' :: fraction

end Magnitude

namespace Binary64

/-- A minus sign when the value has the sign. -/
def signText (negative : Bool) : Text := if negative then ['-'] else []

/-- The shortest text that reads back as the value. -/
def text : Binary64 → Text
  | nan => Text.ofString "nan"
  | infinite negative => signText negative ++ Text.ofString "inf"
  | finite negative x => signText negative ++ x.text

/-- The shortest text without an exponent. -/
def plainText : Binary64 → Text
  | nan => Text.ofString "nan.0"
  | infinite negative => signText negative ++ Text.ofString "inf.0"
  | finite negative x => signText negative ++ x.plainText

end Binary64

end TildeFormat
