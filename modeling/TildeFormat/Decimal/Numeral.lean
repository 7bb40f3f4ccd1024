/-
Decimal numerals: the digits of a natural number, most significant
first and without a leading zero, and the number a run of digits
denotes. Integers put a minus sign in front. Everything the library
prints or reads in base ten goes through these two directions.
-/
import TildeFormat.Text.Basic

namespace TildeFormat.Numeral

-- ============================================================= writing

/-- The digits of `n` in base ten; zero is the one digit `0`. -/
def digits (n : Nat) : Text :=
  if n < 10 then [Nat.digitChar n]
  else digits (n / 10) ++ [.scalar (Nat.digitChar (n % 10))]
termination_by n
decreasing_by omega

/-- The digits of `n`, filled up with zeros on the left to `width`
characters. -/
def filled (width n : Nat) : Text :=
  let ds := digits n
  List.replicate (width - ds.length) (.scalar '0') ++ ds

/-- An integer: its digits, after a minus sign when it is negative. -/
def integer (n : Int) : Text :=
  if n < 0 then '-' :: digits n.natAbs else digits n.natAbs

-- ============================================================= reading

/-- The value of an ASCII digit. -/
def digitValue (c : Character) : Nat := c.toNat - 48

/-- The number a run of digits denotes; no digits denote zero. -/
def value (ds : Text) : Nat :=
  ds.foldl (fun n c => n * 10 + digitValue c) 0

/-- The number a run of digits denotes in another base, for bases up to
sixteen; letters count from ten in either case. -/
def valueIn (base : Nat) (ds : Text) : Nat :=
  ds.foldl (fun n c =>
    n * base +
      (if c.isDigit then digitValue c
       else if 0x61 ≤ c.toNat then c.toNat - 87 else c.toNat - 55)) 0

end TildeFormat.Numeral
