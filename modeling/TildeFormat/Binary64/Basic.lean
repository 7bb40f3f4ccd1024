/-
Binary64: the numbers of the IEEE 754 double format, each as an exact
value. A finite magnitude is a whole number of units of 2^-1074, the
smallest positive magnitude, so every comparison, product and rounding
below is arithmetic on natural numbers.

Around a magnitude of `u` units the representable magnitudes are the
multiples of `2 ^ spacing u`: consecutive while `u` has at most 53
binary digits, and as far apart as the extra digits force them after
that. A magnitude is representable when it is such a multiple and stays
below the limit, and it carries the proof of both.
-/
import TildeFormat.Decimal.Nearest
import TildeFormat.Decimal.Power

namespace TildeFormat

-- ========================================================= magnitudes

/-- The exponent of the distance between neighbours around `units`. -/
def spacing (units : Nat) : Nat := units.log2 + 1 - 53

/-- The unit is two to minus this power. -/
def unitExponent : Nat := 1074

/-- The units in the number one. -/
def unitsPerOne : Nat := power 2 unitExponent

/-- The largest spacing exponent of a finite magnitude. -/
def topSpacing : Nat := 2045

/-- The first number of more than 53 binary digits. -/
def significandLimit : Nat := 0x20000000000000

/-- The first number of units beyond every finite magnitude. -/
def unitsLimit : Nat := significandLimit * power 2 topSpacing

/-- A finite, unsigned binary64 value. -/
structure Magnitude where
  units : Nat
  aligned : power 2 (spacing units) ∣ units
  bounded : units < unitsLimit
deriving DecidableEq

/-- A value of the binary64 format; all NaNs are one. -/
inductive Binary64 where
  | nan
  | infinite (negative : Bool)
  | finite (negative : Bool) (magnitude : Magnitude)
deriving DecidableEq

theorem significandLimit_eq : significandLimit = power 2 53 := by decide

/-- A significand of at most 53 binary digits, shifted anywhere, is
aligned: the spacing at the product is at most the shift, but for the
power of two that ends the range, where it is one more. -/
theorem aligned_shift {m s : Nat} (h : m ≤ significandLimit) :
    power 2 (spacing (m * power 2 s)) ∣ m * power 2 s := by
  rcases Nat.eq_zero_or_pos m with rfl | hm
  · simp
  have htwo : 0 < power 2 s := power_pos (by decide) s
  have hpos : 0 < m * power 2 s := Nat.mul_pos hm htwo
  rw [significandLimit_eq] at h
  rcases Nat.lt_or_ge m (power 2 53) with hlt | hge
  · have hlog : (m * power 2 s).log2 < 53 + s := by
      apply log2_lt_of_lt_power (Nat.ne_of_gt hpos)
      rw [power_add]
      exact Nat.mul_lt_mul_of_pos_right hlt htwo
    have hs : spacing (m * power 2 s) ≤ s := by
      unfold spacing; omega
    exact Nat.dvd_trans (power_dvd_power 2 hs) (Nat.dvd_mul_left _ _)
  · have hm53 : m = power 2 53 := Nat.le_antisymm h hge
    rw [hm53, ← power_add]
    have hs : spacing (power 2 (53 + s)) ≤ 53 + s := by
      unfold spacing
      rw [log2_power]
      omega
    exact power_dvd_power 2 hs

namespace Magnitude

/-- The magnitude nearest to `num / den`, a half going to the even
significand; none when that is beyond the finite range. -/
def nearest? (num den : Nat) : Option Magnitude :=
  let scaled := num * unitsPerOne
  let s := spacing (scaled / den)
  let m := divideNearest scaled (den * power 2 s)
  if h : m ≤ significandLimit ∧ m * power 2 s < unitsLimit then
    some ⟨m * power 2 s, aligned_shift h.1, h.2⟩
  else none

/-- Zero. -/
def zero : Magnitude :=
  ⟨0, by simp, Nat.mul_pos (by decide) (power_pos (by decide) _)⟩

/-- The magnitude of `significand` times two to the `shift`, in units. -/
def ofParts (significand shift : Nat)
    (hm : significand < significandLimit) (hs : shift ≤ topSpacing) :
    Magnitude where
  units := significand * power 2 shift
  aligned := aligned_shift (Nat.le_of_lt hm)
  bounded :=
    Nat.lt_of_lt_of_le
      (Nat.mul_lt_mul_of_pos_right hm (power_pos (by decide) shift))
      (Nat.mul_le_mul_left _ (power_le_power (by decide) hs))

/-- The significand: the number of steps of its own spacing. -/
def significand (x : Magnitude) : Nat :=
  x.units / power 2 (spacing x.units)

end Magnitude

-- ================================================================ bits

namespace Binary64

/-- The weight of the sign in a 64-bit word. -/
def signWeight : Nat := 0x8000000000000000

/-- The weight of the lowest exponent bit in a 64-bit word, and the first
number of 53 binary digits. -/
def exponentWeight : Nat := 0x10000000000000

/-- The value of a 64-bit word: a sign, eleven exponent bits and 52
fraction bits. The all-ones exponent holds the infinities and NaN, the
zero exponent the magnitudes below the first full significand. -/
def ofBits (word : Nat) : Binary64 :=
  let negative := word / signWeight % 2 == 1
  let exponent := word / exponentWeight % 2048
  let fraction := word % exponentWeight
  have hf : fraction < exponentWeight := Nat.mod_lt _ (by decide)
  have he : exponent < 2048 := Nat.mod_lt _ (by decide)
  have two : significandLimit = exponentWeight + exponentWeight := rfl
  if h : exponent = 2047 then
    if fraction = 0 then infinite negative else nan
  else if exponent = 0 then
    finite negative (.ofParts fraction 0 (by omega) (Nat.zero_le _))
  else
    finite negative
      (.ofParts (exponentWeight + fraction) (exponent - 1) (by omega)
        (by unfold topSpacing; omega))

/-- The 64-bit word of a value; NaN is the quiet one without payload. -/
def toBits : Binary64 → Nat
  | nan => 0x7FF8000000000000
  | infinite negative => signBit negative + 0x7FF0000000000000
  | finite negative x =>
    let m := x.significand
    signBit negative +
      (if m < exponentWeight then m
       else (spacing x.units + 1) * exponentWeight + (m - exponentWeight))
where
  /-- The weight of the sign. -/
  signBit (negative : Bool) : Nat := if negative then signWeight else 0

-- ========================================================= conversions

/-- The value nearest to an integer; none beyond the finite range. -/
def ofInt? (n : Int) : Option Binary64 :=
  (Magnitude.nearest? n.natAbs 1).map (finite (decide (n < 0)))

/-- The value nearest to a quotient of integers, whose sign it keeps even
when it is zero; none beyond the finite range. -/
def ofQuotient? (num den : Int) : Option Binary64 :=
  (Magnitude.nearest? num.natAbs den.natAbs).map
    (finite (decide (num < 0) != decide (den < 0)))

/-- The value nearest to a power of ten; none beyond the finite range.
Outside the exponents that have a magnitude the power itself is not
computed. -/
def tenTo? (k : Int) : Option Binary64 :=
  if 308 < k then none
  else if 0 ≤ k then ofInt? (power 10 k.toNat)
  else if k < -400 then
    (ofInt? k).map fun _ => finite false Magnitude.zero
  else (Magnitude.nearest? 1 (power 10 (-k).toNat)).map (finite false)

/-- The product, rounded to the nearest value; beyond the finite range it
is infinite, and zero times an infinity is no number. -/
def mul : Binary64 → Binary64 → Binary64
  | nan, _ => nan
  | _, nan => nan
  | infinite a, infinite b => infinite (a != b)
  | infinite a, finite b y =>
    if y.units = 0 then nan else infinite (a != b)
  | finite a x, infinite b =>
    if x.units = 0 then nan else infinite (a != b)
  | finite a x, finite b y =>
    match Magnitude.nearest? (x.units * y.units)
        (unitsPerOne * unitsPerOne) with
    | some z => finite (a != b) z
    | none => infinite (a != b)

/-- The value with the other sign. -/
def opposite : Binary64 → Binary64
  | nan => nan
  | infinite a => infinite !a
  | finite a x => finite (!a) x

/-- The sum, rounded to the nearest value; beyond the finite range it is
infinite, and opposite infinities have none. Opposite values add up to
the zero without a sign. -/
def add : Binary64 → Binary64 → Binary64
  | nan, _ => nan
  | _, nan => nan
  | infinite a, infinite b => if a = b then infinite a else nan
  | infinite a, finite _ _ => infinite a
  | finite _ _, infinite b => infinite b
  | finite a x, finite b y =>
    let signed (negative : Bool) (z : Magnitude) : Int :=
      if negative then -(z.units : Int) else z.units
    let sum := signed a x + signed b y
    let negative := if sum = 0 then a && b else decide (sum < 0)
    match Magnitude.nearest? sum.natAbs unitsPerOne with
    | some z => finite negative z
    | none => infinite negative

/-- The least integer that is not below a finite value. -/
def ceiling (negative : Bool) (x : Magnitude) : Int :=
  if negative then -((x.units / unitsPerOne : Nat) : Int)
  else (((x.units + (unitsPerOne - 1)) / unitsPerOne : Nat) : Int)

end Binary64

end TildeFormat
