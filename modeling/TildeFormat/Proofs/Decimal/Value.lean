/-
Decimal numbers as rational ones. A number keeps its value when the zeros
at the end of its coefficient go into the exponent, and when the zeros up
to its point are written out. The place of the point tells between which
powers of ten it is.
-/
import Mathlib
import TildeFormat.Proofs.Decimal.Spelling

namespace TildeFormat

theorem cast_power (base n : Nat) : ((power base n : Nat) : ℚ) = base ^ n := by
  rw [power]
  exact Nat.cast_pow base n

namespace Scientific

variable {x : Scientific}

/-- The number a decimal is. -/
def value (x : Scientific) : ℚ := x.coefficient * (10 : ℚ) ^ x.exponent

theorem denominator_pos (x : Scientific) : 0 < x.denominator :=
  power_pos (by decide) _

/-- The quotient a decimal is computed with is its value. -/
theorem value_eq_div (x : Scientific) :
    x.value = (x.numerator : ℚ) / x.denominator := by
  unfold value numerator denominator
  rw [Nat.cast_mul, cast_power, cast_power, Nat.cast_ofNat, mul_div_assoc,
    ← zpow_natCast, ← zpow_natCast, ← zpow_sub₀ (by norm_num)]
  congr 2
  omega

/-- Powers of ten may stand in the coefficient as well as in the
exponent. -/
theorem value_mul_power (m n : Nat) (e : Int) :
    value ⟨m * power 10 n, e⟩ = value ⟨m, e + n⟩ := by
  unfold value
  rw [Nat.cast_mul, cast_power, Nat.cast_ofNat, mul_assoc, ← zpow_natCast,
    ← zpow_add₀ (by norm_num), add_comm]

theorem value_power (n : Nat) (e : Int) :
    value ⟨power 10 n, e⟩ = 10 ^ (e + n) := by
  rw [← Nat.one_mul (power 10 n), value_mul_power, value, Nat.cast_one,
    one_mul]

/-- What is read back where the point is written has the same value. -/
theorem value_spelled (x : Scientific) : x.spelled.value = x.value := by
  unfold spelled
  split
  · rfl
  · rw [value_mul_power]
    congr 2
    omega

-- ================================================================ trimming

/-- Zeros that go into the exponent do not change the value. -/
theorem value_trimmed (x : Scientific) : x.trimmed.value = x.value := by
  induction x using trimmed.induct with
  | case1 x h ih =>
      rw [trimmed, dif_pos h, ih]
      have hten : x.coefficient / 10 * power 10 1 = x.coefficient :=
        Nat.div_mul_cancel (Nat.dvd_of_mod_eq_zero h.2)
      have := value_mul_power (x.coefficient / 10) 1 x.exponent
      rw [hten] at this
      exact this.symm
  | case2 x h => rw [trimmed, dif_neg h]

theorem coefficient_trimmed_le (x : Scientific) :
    x.trimmed.coefficient ≤ x.coefficient := by
  induction x using trimmed.induct with
  | case1 x h ih =>
      rw [trimmed, dif_pos h]
      exact Nat.le_trans ih (Nat.div_le_self _ _)
  | case2 x h => rw [trimmed, dif_neg h]

/-- Of a coefficient up to a power of ten there are at most as many digits
left as the power has zeros: the power itself is one digit. -/
theorem length_digits_trimmed_le {n : Nat} (hn : 0 < n)
    (h : x.coefficient ≤ power 10 n) :
    (Numeral.digits x.trimmed.coefficient).length ≤ n := by
  refine Numeral.length_digits_le hn ?_
  rw [trimmed]
  by_cases hzeros : x.coefficient ≠ 0 ∧ x.coefficient % 10 = 0
  · rw [dif_pos hzeros]
    refine Nat.lt_of_le_of_lt (coefficient_trimmed_le _) ?_
    show x.coefficient / 10 < power 10 n
    omega
  · rw [dif_neg hzeros]
    refine Nat.lt_of_le_of_ne h fun hpower => hzeros ?_
    rw [hpower]
    exact ⟨Nat.ne_of_gt (power_pos (by decide) n),
      Nat.mod_eq_zero_of_dvd (power_dvd_power 10 hn)⟩

-- =================================================================== point

/-- A decimal that is not zero is between the power of ten at the place of
its point and the one before. -/
theorem value_bounds (h : x.coefficient ≠ 0) :
    (10 : ℚ) ^ (x.point - 1) ≤ x.value ∧ x.value < 10 ^ x.point := by
  have hlow := Numeral.power_length_digits_le h
  have hhigh := Numeral.lt_power_length_digits x.coefficient
  have hlength := Numeral.length_digits_pos x.coefficient
  have hten : (0 : ℚ) < 10 ^ x.exponent := by positivity
  unfold point value
  generalize (Numeral.digits x.coefficient).length = length at *
  have hcast (n : Nat) (e : Int) (he : e = n + x.exponent) :
      (10 : ℚ) ^ e = (power 10 n : Nat) * 10 ^ x.exponent := by
    rw [cast_power, Nat.cast_ofNat, he, zpow_add₀ (by norm_num),
      zpow_natCast]
  rw [hcast (length - 1) _ (by omega), hcast length _ rfl]
  exact ⟨mul_le_mul_of_nonneg_right (by exact_mod_cast hlow) hten.le,
    mul_lt_mul_of_pos_right (by exact_mod_cast hhigh) hten⟩

end Scientific

end TildeFormat
