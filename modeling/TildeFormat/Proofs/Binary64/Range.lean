/-
Which quotients have a nearest binary64 value. Rounding leaves at most 53
binary digits, one more than fit when all of them carry, so whether the
result is finite is decided at the top spacing alone: below it every
significand fits, above it none does, and at the top the significand that
is one too large is reached from the half-way point on, for the half goes
to the even neighbour and that is the one too large.

So a quotient has a value just when it stays below the number half a step
above the largest finite one.
-/
import TildeFormat.Value.Form

namespace TildeFormat

-- ============================================================ rounding

/-- Rounding keeps the whole part of a quotient, or takes the next number
when half of one or more is left over. -/
theorem divideNearest_cases (num den : Nat) :
    (divideNearest num den = num / den
        ∧ (2 * (num % den) < den
          ∨ 2 * (num % den) = den ∧ num / den % 2 = 0))
      ∨ (divideNearest num den = num / den + 1
        ∧ (den < 2 * (num % den)
          ∨ 2 * (num % den) = den ∧ num / den % 2 = 1)) := by
  unfold divideNearest
  simp only
  split
  · next hless => exact .inl ⟨rfl, .inl hless⟩
  · split
    · next hmore => exact .inr ⟨rfl, .inl hmore⟩
    · split
      · next heven => exact .inl ⟨rfl, .inr ⟨by omega, heven⟩⟩
      · exact .inr ⟨rfl, .inr ⟨by omega, by omega⟩⟩

/-- The nearest quotient is not below the floor. -/
theorem le_divideNearest (num den : Nat) :
    num / den ≤ divideNearest num den := by
  rcases divideNearest_cases num den with ⟨h, -⟩ | ⟨h, -⟩
  · exact Nat.le_of_eq h.symm
  · exact h ▸ Nat.le_succ _

/-- Rounding stays below an even number just when the quotient is more
than a half below it. -/
theorem divideNearest_lt_iff {num den k : Nat} (hden : 0 < den)
    (heven : k % 2 = 0) :
    divideNearest num den < k ↔ 2 * num < (2 * k - 1) * den := by
  have hnum := Nat.div_add_mod num den
  have hrem := Nat.mod_lt num hden
  have hcases := divideNearest_cases num den
  generalize divideNearest num den = m at *
  generalize num / den = q at *
  generalize num % den = r at *
  rcases Nat.lt_or_ge q k with hlt | hge
  · obtain ⟨d, rfl⟩ : ∃ d, k = q + 1 + d := ⟨k - (q + 1), by omega⟩
    have hk : (2 * (q + 1 + d) - 1) * den
        = 2 * (den * q) + den + 2 * (d * den) := by
      rw [show 2 * (q + 1 + d) - 1 = 2 * q + 1 + 2 * d by omega,
        Nat.add_mul, Nat.add_mul, Nat.one_mul, Nat.mul_assoc,
        Nat.mul_assoc, Nat.mul_comm q]
    rw [hk]
    -- only the last number below `k` can still be rounded up to it
    cases d with
    | zero => omega
    | succ d =>
        have : (d + 1) * den = d * den + den := Nat.succ_mul d den
        omega
  · have hk : (2 * k - 1) * den ≤ 2 * (den * q) := by
      rw [Nat.mul_left_comm, Nat.mul_comm den]
      exact Nat.mul_le_mul_right den (by omega)
    omega

-- ============================================================= spacing

/-- The spacing leaves 53 digits at most. -/
theorem lt_power_spacing (units : Nat) :
    units < power 2 (53 + spacing units) := by
  have h : units < power 2 (units.log2 + 1) := Nat.lt_log2_self
  exact Nat.lt_of_lt_of_le h
    (power_le_power (by decide) (by unfold spacing; omega))

/-- And no fewer where it is not the least one. -/
theorem power_spacing_le {units : Nat} (h : 0 < spacing units) :
    power 2 (52 + spacing units) ≤ units := by
  have hne : units ≠ 0 := by
    rintro rfl
    exact absurd h (by decide)
  have hself : power 2 units.log2 ≤ units := Nat.log2_self_le hne
  unfold spacing at h ⊢
  rwa [show 52 + (units.log2 + 1 - 53) = units.log2 by omega]

-- ============================================================== range

/-- The number half a step above the largest finite value. -/
def roundingLimit : Nat := (2 * significandLimit - 1) * power 2 970

namespace Magnitude

/-- The significand a quotient of `num` units is rounded to. -/
def significandOf (num den : Nat) : Nat :=
  divideNearest num (den * power 2 (spacing (num / den)))

/-- No significand is beyond the limit. -/
theorem significandOf_le (num den : Nat) :
    significandOf num den ≤ significandLimit := by
  refine Nat.le_trans (divideNearest_le _ _) ?_
  rw [← Nat.div_div_eq_div_mul]
  have hlt := lt_power_spacing (num / den)
  rw [power_add] at hlt
  rw [significandLimit_eq]
  exact Nat.div_lt_of_lt_mul (by rwa [Nat.mul_comm])

theorem unitsPerOne_pos : 0 < unitsPerOne := power_pos (by decide) _

/-- Half a step above the largest finite value, in units. -/
theorem roundingLimit_mul_unitsPerOne :
    roundingLimit * unitsPerOne
      = (2 * significandLimit - 1) * power 2 2044 := by
  unfold roundingLimit unitsPerOne unitExponent
  rw [Nat.mul_assoc, ← power_add]

theorem power_two_succ (n : Nat) : power 2 (n + 1) = 2 * power 2 n := by
  rw [Nat.mul_comm]
  rfl

/-- The end of the finite range, in the steps half as wide. -/
theorem unitsLimit_eq :
    unitsLimit = 2 * significandLimit * power 2 2044 := by
  rw [unitsLimit, topSpacing, power_two_succ, Nat.mul_left_comm,
    ← Nat.mul_assoc]

/-- The rounded quotient stays in the finite range just when the exact
one is more than half a step below its end. -/
theorem significandOf_mul_lt_iff {num den : Nat} (hden : 0 < den) :
    significandOf num den * power 2 (spacing (num / den)) < unitsLimit
      ↔ num < (2 * significandLimit - 1) * power 2 2044 * den := by
  have hpos (n : Nat) : 0 < power 2 n := power_pos (by decide) n
  rcases Nat.lt_trichotomy (spacing (num / den)) 2045 with h | h | h
  · -- below the top every significand fits
    have hlow : significandLimit * power 2 2044
        ≤ (2 * significandLimit - 1) * power 2 2044 :=
      Nat.mul_le_mul_right _ (by decide)
    have hunits : num / den < significandLimit * power 2 2044 := by
      rw [significandLimit_eq, ← power_add]
      exact Nat.lt_of_lt_of_le (lt_power_spacing _)
        (power_le_power (by decide) (by omega))
    have hfits : significandOf num den * power 2 (spacing (num / den))
        < unitsLimit := by
      refine Nat.lt_of_le_of_lt (Nat.mul_le_mul (significandOf_le num den)
        (power_le_power (by decide) (Nat.le_of_lt_succ h))) ?_
      rw [unitsLimit_eq]
      exact Nat.mul_lt_mul_of_pos_right (by decide) (hpos 2044)
    exact iff_of_true hfits ((Nat.div_lt_iff_lt_mul hden).mp
      (Nat.lt_of_lt_of_le hunits hlow))
  · -- at the top the even significand that is one too large decides
    rw [significandOf, h, unitsLimit, topSpacing,
      Nat.mul_lt_mul_right (hpos 2045),
      divideNearest_lt_iff (Nat.mul_pos hden (hpos 2045)) (by decide),
      power_two_succ,
      show (2 * significandLimit - 1) * (den * (2 * power 2 2044))
        = 2 * ((2 * significandLimit - 1) * power 2 2044 * den) by
        rw [Nat.mul_left_comm den, Nat.mul_left_comm, Nat.mul_comm den,
          ← Nat.mul_assoc (2 * significandLimit - 1)]]
    exact Nat.mul_lt_mul_left (by decide)
  · -- above the top no significand fits
    have hlarge := power_spacing_le (Nat.zero_lt_of_lt h)
    have htop : unitsLimit ≤ power 2 (52 + spacing (num / den)) := by
      rw [unitsLimit, topSpacing, significandLimit_eq, ← power_add]
      exact power_le_power (by decide) (show 53 + 2045 ≤ _ by omega)
    have hbeyond : unitsLimit
        ≤ significandOf num den * power 2 (spacing (num / den)) := by
      refine Nat.le_trans htop ?_
      rw [power_add]
      refine Nat.mul_le_mul_right _ (Nat.le_trans ?_
        (le_divideNearest _ _))
      rw [← Nat.div_div_eq_div_mul]
      exact (Nat.le_div_iff_mul_le (hpos _)).mpr
        (power_add 2 52 _ ▸ hlarge)
    have hnum : unitsLimit * den ≤ num :=
      (Nat.le_div_iff_mul_le hden).mp (Nat.le_trans htop hlarge)
    have hhigh : (2 * significandLimit - 1) * power 2 2044
        ≤ unitsLimit := by
      rw [unitsLimit_eq]
      exact Nat.mul_le_mul_right _ (by decide)
    exact iff_of_false (Nat.not_lt.mpr hbeyond) (Nat.not_lt.mpr
      (Nat.le_trans (Nat.mul_le_mul_right den hhigh) hnum))

/-- A quotient has a nearest magnitude just when it is below the number
half a step above the largest one. -/
theorem nearest?_eq_none_iff {num den : Nat} :
    nearest? num den = none ↔ 0 < den ∧ roundingLimit * den ≤ num := by
  have hnearest : nearest? num den = none
      ↔ ¬(significandOf (num * unitsPerOne) den ≤ significandLimit
        ∧ significandOf (num * unitsPerOne) den
            * power 2 (spacing (num * unitsPerOne / den))
          < unitsLimit) := by
    unfold nearest? significandOf
    simp only
    split
    · next h => exact iff_of_false (by simp) (not_not_intro h)
    · next h => exact iff_of_true rfl h
  rw [hnearest]
  rcases Nat.eq_zero_or_pos den with rfl | hden
  · have hone : significandOf (num * unitsPerOne) 0 ≤ 1 :=
      Nat.le_trans (divideNearest_le _ _)
        (Nat.le_of_eq (by rw [Nat.zero_mul, Nat.div_zero]))
    have hlimit : 1 < unitsLimit := by
      rw [unitsLimit_eq]
      exact Nat.lt_of_lt_of_le (by decide)
        (Nat.le_mul_of_pos_right _ (power_pos (by decide) _))
    refine iff_of_false (fun h => h ⟨significandOf_le _ _, ?_⟩)
      (fun h => absurd h.1 (by decide))
    rw [Nat.div_zero, show power 2 (spacing 0) = 1 from rfl, Nat.mul_one]
    exact Nat.lt_of_le_of_lt hone hlimit
  · rw [and_iff_right (significandOf_le _ _),
      significandOf_mul_lt_iff hden, ← roundingLimit_mul_unitsPerOne,
      Nat.mul_right_comm roundingLimit,
      Nat.mul_lt_mul_right unitsPerOne_pos,
      and_iff_right hden, Nat.not_lt]

end Magnitude

-- ============================================================== values

/-- A quotient is too large for every finite value. -/
def Beyond (numerator : Int) (denominator : Nat) : Prop :=
  0 < denominator ∧ roundingLimit * denominator ≤ numerator.natAbs

/-- A quotient has no nearest number exactly when it is beyond the range.
-/
theorem ofQuotient?_eq_none_iff {num den : Int} :
    Binary64.ofQuotient? num den = none ↔ Beyond num den.natAbs := by
  rw [Binary64.ofQuotient?, Option.map_eq_none_iff]
  exact Magnitude.nearest?_eq_none_iff

/-- The same for an integer. -/
theorem ofInt?_eq_none_iff {n : Int} :
    Binary64.ofInt? n = none ↔ Beyond n 1 := by
  rw [Binary64.ofInt?, Option.map_eq_none_iff]
  exact Magnitude.nearest?_eq_none_iff

/-- A number kept as a quotient has no binary64 value just when it is
beyond the range, and that is a fault of range. -/
theorem Value.float?_of_quotient {v : Value} {n : Int} {d : Nat}
    (h : v.quotient? = some (n, d)) :
    ∃ x? fault, v.float? = rounded x? fault
      ∧ (x? = none ↔ Beyond n d) ∧ fault.family = .range := by
  cases v with
  | int n =>
      cases h
      exact ⟨_, _, rfl, ofInt?_eq_none_iff, rfl⟩
  | fraction n d =>
      cases h
      exact ⟨_, _, rfl, ofQuotient?_eq_none_iff, rfl⟩
  | _ => cases h

/-- Any other value has an answer. -/
theorem Value.float?_of_not_quotient {v : Value}
    (h : v.quotient? = none) : ∃ x?, v.float? = .ok x? := by
  cases v with
  | int | fraction => cases h
  | _ => exact ⟨_, rfl⟩

end TildeFormat
