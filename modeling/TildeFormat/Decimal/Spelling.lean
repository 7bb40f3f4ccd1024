/-
Spellings of decimal numbers. A number may be written with a sign, a
point anywhere among its digits and an exponent, and there are words for
infinity and for what is not a number. Of all spellings with the same
digits and the same last place one is kept: with the point where it
belongs while that is near the digits, and otherwise behind the first
digit, with an exponent.
-/
import TildeFormat.Decimal.Scientific
import TildeFormat.Text.Blank

namespace TildeFormat

/-- What a spelling denotes. A number keeps its sign when it is zero, and
the place of its last digit. -/
inductive Decimal where
  | finite (negative : Bool) (size : Scientific)
  | infinite (negative : Bool)
  | nan (negative signalling : Bool) (payload : Text)
deriving DecidableEq

namespace Decimal

-- ============================================================= reading

/-- An exponent that is all of a text: a sign, if there is one, and
digits. -/
def exponent? : Text → Option Int
  | '-' :: ds => (natural? ds).map fun n => -(n : Int)
  | '+' :: ds => (natural? ds).map fun n => (n : Int)
  | ds => (natural? ds).map fun n => (n : Int)
where
  /-- Digits, at least one. -/
  natural? (ds : Text) : Option Nat :=
    if !ds.isEmpty && ds.all Character.isDigit then some (Numeral.value ds)
    else none

/-- A number without a sign that is all of a text: digits before and
behind a point, at least one of them, and an exponent behind a mark. -/
def size? (t : Text) : Option Scientific :=
  let whole := t.takeWhile Character.isDigit
  let rest := t.dropWhile Character.isDigit
  let (fraction, tail) :=
    match rest with
    | '.' :: after => (after.takeWhile Character.isDigit,
        after.dropWhile Character.isDigit)
    | rest => ([], rest)
  let exponent :=
    match tail with
    | [] => some 0
    | mark :: digits => if mark.toLower == 'e' then exponent? digits else none
  if whole.isEmpty && fraction.isEmpty then none
  else
    exponent.map fun (e : Int) =>
      ⟨Numeral.value (whole ++ fraction), e - fraction.length⟩

/-- The number, or what is none, that a spelling without a sign
denotes. -/
def unsigned? (negative : Bool) (t : Text) : Option Decimal :=
  let lower := t.map Character.toLower
  let behind (word : String) : Option Text :=
    let rest := lower.drop word.length
    if (Text.ofString word).isPrefixOf lower && rest.all Character.isDigit then
      some (rest.dropWhile (· == .scalar '0'))
    else none
  if lower == Text.ofString "inf" || lower == Text.ofString "infinity" then
    some (.infinite negative)
  else
    match behind "nan", behind "snan" with
    | some payload, _ => some (.nan negative false payload)
    | _, some payload => some (.nan negative true payload)
    | _, _ => (size? t).map (.finite negative)

/-- What a spelling denotes. Blanks around it and underscores in it count
for nothing. -/
def ofText? (t : Text) : Option Decimal :=
  match (t.stripped isBlank).filter (· != .scalar '_') with
  | '-' :: t => unsigned? true t
  | '+' :: t => unsigned? false t
  | t => unsigned? false t

-- ============================================================= writing

/-- A number without a sign. The point stands among the digits when the
last place is not left of it and at most six zeros are between it and
the digits. -/
def sizeText (x : Scientific) : Text :=
  let ds := Numeral.digits x.coefficient
  let near := x.exponent ≤ 0 && decide (-6 < x.point)
  let place : Int := if near then x.point else 1
  let mantissa : Text :=
    if place ≤ 0 then
      '0' :: '.' :: (List.replicate (-place).toNat (.scalar '0') ++ ds)
    else if (ds.length : Int) ≤ place then ds
    else ds.take place.toNat ++ .scalar '.' :: ds.drop place.toNat
  if near then mantissa
  else
    let e := x.point - 1
    mantissa ++ .scalar 'E' :: (if e < 0 then .scalar '-' else .scalar '+')
      :: Numeral.digits e.natAbs

/-- The spelling that is kept. -/
def text : Decimal → Text
  | finite negative x => signText negative ++ sizeText x
  | infinite negative => signText negative ++ Text.ofString "Infinity"
  | nan negative signalling payload =>
    signText negative ++ (if signalling then [.scalar 's'] else [])
      ++ Text.ofString "NaN" ++ payload
where
  /-- A minus sign for what is negative. -/
  signText (negative : Bool) : Text := if negative then ['-'] else []

-- ============================================================ equality

/-- A number is a quotient. Of a number in lowest terms the places on
either side of the point are no more than the quotient has binary
digits, so a number that is far longer is not computed with. -/
def sizeIs (x : Scientific) (num den : Nat) : Bool :=
  let x := x.trimmed
  if x.coefficient = 0 || num = 0 then x.coefficient == num
  else
    decide (x.exponent ≤ num.log2) && decide (-x.exponent ≤ den.log2)
      && x.numerator * den == num * x.denominator

/-- A decimal number is a quotient of an integer and a natural number. -/
def isQuotient : Decimal → Int → Nat → Bool
  | finite negative x, num, den =>
    (num = 0 || negative == decide (num < 0)) && sizeIs x num.natAbs den
  | _, _, _ => false

/-- Two decimals are the same number, whatever their last places are. -/
def same : Decimal → Decimal → Bool
  | finite a x, finite b y =>
    if x.coefficient = 0 || y.coefficient = 0 then
      x.coefficient == y.coefficient
    else a == b && x.trimmed == y.trimmed
  | infinite a, infinite b => a == b
  | _, _ => false

end Decimal

end TildeFormat
