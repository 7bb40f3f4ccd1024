/-
Powers of natural numbers, with the few laws that the spacing of binary
numbers rests on. Powers of two measure what a binary number is a
multiple of, powers of ten move the point of a decimal one.
-/

namespace TildeFormat

/-- The product of `exponent` factors that are all `base`. -/
def power (base exponent : Nat) : Nat := base.pow exponent

/-- Powers of a positive base are positive. -/
theorem power_pos {base : Nat} (h : 0 < base) (n : Nat) :
    0 < power base n :=
  Nat.pow_pos h

/-- Exponents add up. -/
theorem power_add (base m n : Nat) :
    power base (m + n) = power base m * power base n :=
  Nat.pow_add base m n

/-- Powers grow with the exponent. -/
theorem power_le_power {base m n : Nat} (hb : 0 < base) (h : m ≤ n) :
    power base m ≤ power base n :=
  Nat.pow_le_pow_right hb h

theorem power_dvd_power (base : Nat) {m n : Nat} (h : m ≤ n) :
    power base m ∣ power base n :=
  Nat.pow_dvd_pow base h

/-- Below a power of two there are as many binary digits as its
exponent. -/
theorem log2_lt_of_lt_power {n k : Nat} (h0 : n ≠ 0)
    (h : n < power 2 k) : n.log2 < k :=
  (Nat.log2_lt h0).2 h

theorem log2_power (k : Nat) : (power 2 k).log2 = k := Nat.log2_two_pow

end TildeFormat
