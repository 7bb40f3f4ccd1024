/-
Rounding a quotient to a magnitude: the order is kept, a magnitude is
rounded to itself, and no magnitude is nearer than the one a quotient is
rounded to.

The spacing is what makes the order worth a proof. Within one spacing it is
kept because rounding to whole numbers keeps it; where the spacing grows,
the smaller quotient is rounded at most to the first number of the wider
spacing, and the larger one at least to it.

From the first two facts follows what the shortest decimals rest on: what
is rounded to a magnitude is an interval around its value.
-/
import Mathlib
import TildeFormat.Binary64.Shortest
import TildeFormat.Proofs.Decimal.Rounding

namespace TildeFormat

-- =============================================================== integers

/-- How far a quotient is from a whole number, by the gap. -/
theorem abs_div_sub {den : Nat} (hden : 0 < den) (num n : Nat) :
    |(num : ℚ) / den - n| = (gap num den n : ℚ) / den := by
  have hpos : (0 : ℚ) < den := by exact_mod_cast hden
  rw [gap, Nat.cast_natAbs, ← abs_of_pos hpos, Int.cast_abs, ← abs_div,
    abs_of_pos hpos]
  push_cast
  congr 1
  field_simp

/-- A quotient is rounded to a whole number within a half of it, and to an
even one where it is a half away. -/
theorem divideNearest_half {num den : Nat} (hden : 0 < den) :
    |(num : ℚ) / den - divideNearest num den| ≤ 1 / 2
      ∧ (|(num : ℚ) / den - divideNearest num den| = 1 / 2 →
        divideNearest num den % 2 = 0) := by
  have hpos : (0 : ℚ) < den := by exact_mod_cast hden
  have hgap : 2 * gap num den (divideNearest num den) ≤ den
      ∧ (2 * gap num den (divideNearest num den) = den →
        divideNearest num den % 2 = 0) := by
    have hnum := Nat.div_add_mod num den
    have hrem := Nat.mod_lt num hden
    have hcases := divideNearest_cases num den
    unfold gap
    generalize divideNearest num den = n at *
    generalize num / den = q at *
    generalize num % den = r at *
    rw [Nat.mul_comm] at hnum
    have hnext : (q + 1) * den = q * den + den := Nat.succ_mul q den
    rcases hcases with ⟨rfl, hround⟩ | ⟨rfl, hround⟩ <;> omega
  rw [abs_div_sub hden]
  refine ⟨?_, fun hhalf => hgap.2 ?_⟩
  · rw [div_le_div_iff₀ hpos (by norm_num)]
    exact_mod_cast (by omega : _ * 2 ≤ 1 * den)
  · rw [div_eq_div_iff hpos.ne' (by norm_num)] at hhalf
    have : gap num den (divideNearest num den) * 2 = 1 * den := by
      exact_mod_cast hhalf
    omega

/-- Rounding to whole numbers keeps the order of quotients. -/
theorem divideNearest_mono {a b c d : Nat} (hb : 0 < b) (hd : 0 < d)
    (h : (a : ℚ) / b ≤ c / d) : divideNearest a b ≤ divideNearest c d := by
  obtain ⟨hlow, hloweven⟩ := @divideNearest_half a b hb
  obtain ⟨hhigh, hhigheven⟩ := @divideNearest_half c d hd
  by_contra hless
  have hstep : (divideNearest c d : ℚ) + 1 ≤ divideNearest a b := by
    exact_mod_cast Nat.lt_of_not_le hless
  have hleft := abs_le.mp hlow
  have hright := abs_le.mp hhigh
  -- both quotients are the half between two neighbours, and both of these
  -- are even
  have hnext : divideNearest a b = divideNearest c d + 1 := by
    have : (divideNearest a b : ℚ) = divideNearest c d + 1 := by linarith
    exact_mod_cast this
  have := hloweven (abs_eq (by norm_num) |>.mpr (.inr (by linarith)))
  have := hhigheven (abs_eq (by norm_num) |>.mpr (.inl (by linarith)))
  omega

-- =============================================================== spacing

theorem power_lt_power_iff {m n : Nat} : power 2 m < power 2 n ↔ m < n :=
  Nat.pow_lt_pow_iff_right (by decide)

/-- More units are spaced at least as widely. -/
theorem spacing_mono {m n : Nat} (h : m ≤ n) : spacing m ≤ spacing n := by
  rcases Nat.eq_zero_or_pos (spacing m) with hzero | hpos
  · omega
  · have hless := Nat.lt_of_le_of_lt
      (Nat.le_trans (power_spacing_le hpos) h) (lt_power_spacing n)
    rw [power_lt_power_iff] at hless
    omega

namespace Magnitude

variable {a b c d : Nat} {x y : Magnitude}

-- ================================================================ values

/-- The number a magnitude is. -/
def value (x : Magnitude) : ℚ := (x.units : ℚ) / unitsPerOne

theorem unitsPerOne_cast_pos : (0 : ℚ) < unitsPerOne := by
  exact_mod_cast unitsPerOne_pos

theorem value_le_iff : x.value ≤ y.value ↔ x.units ≤ y.units := by
  rw [value, value, div_le_div_iff_of_pos_right unitsPerOne_cast_pos]
  exact Nat.cast_le

theorem units_injective : Function.Injective units := by
  intro x y h
  cases x
  cases y
  cases h
  rfl

/-- A magnitude is determined by its value. -/
theorem value_injective : Function.Injective value := by
  intro x y h
  exact units_injective
    (Nat.le_antisymm (value_le_iff.mp h.le) (value_le_iff.mp h.ge))

-- ================================================================= order

/-- Rounding keeps the order of quotients. -/
theorem nearest?_mono (hb : 0 < b) (hd : 0 < d) (h : (a : ℚ) / b ≤ c / d)
    (hx : nearest? a b = some x) (hy : nearest? c d = some y) :
    x.value ≤ y.value := by
  rw [value_le_iff]
  have hunits := units_of_nearest? hx
  have hb' : (0 : ℚ) < b := by exact_mod_cast hb
  have hd' : (0 : ℚ) < d := by exact_mod_cast hd
  have hproducts : a * d ≤ c * b := by
    rw [div_le_div_iff₀ hb' hd'] at h
    exact_mod_cast h
  have hwhole : a * unitsPerOne / b ≤ c * unitsPerOne / d := by
    rw [Nat.le_div_iff_mul_le hd]
    refine Nat.le_of_mul_le_mul_right ?_ hb
    calc a * unitsPerOne / b * d * b
        = a * unitsPerOne / b * b * d := by ring
      _ ≤ a * unitsPerOne * d :=
        Nat.mul_le_mul_right d (Nat.div_mul_le_self _ _)
      _ = a * d * unitsPerOne := by ring
      _ ≤ c * b * unitsPerOne := Nat.mul_le_mul_right _ hproducts
      _ = c * unitsPerOne * b := by ring
  rcases Nat.lt_or_eq_of_le (spacing_mono hwhole) with hwider | hsame
  · -- the first number of the wider spacing lies between
    have hsmall : x.units
        ≤ power 2 (53 + spacing (a * unitsPerOne / b)) := by
      rw [hunits, power_add, ← significandLimit_eq]
      exact Nat.mul_le_mul_right _ (significandOf_le _ _)
    refine Nat.le_trans hsmall (Nat.le_trans ?_
      (power_le_units hy (by omega)))
    exact power_le_power (by decide) (by omega)
  · rw [hunits, units_of_nearest? hy, ← hsame]
    have hstep : 0 < power 2 (spacing (a * unitsPerOne / b)) :=
      power_pos (by decide) _
    generalize power 2 (spacing (a * unitsPerOne / b)) = step at *
    refine Nat.mul_le_mul_right step (divideNearest_mono
      (Nat.mul_pos hb hstep) (Nat.mul_pos hd hstep) ?_)
    have hstep' : (0 : ℚ) < step := by exact_mod_cast hstep
    rw [div_le_div_iff₀ (by positivity) (by positivity)]
    have : a * unitsPerOne * (d * step) ≤ c * unitsPerOne * (b * step) := by
      calc a * unitsPerOne * (d * step)
          = a * d * (unitsPerOne * step) := by ring
        _ ≤ c * b * (unitsPerOne * step) :=
          Nat.mul_le_mul_right _ hproducts
        _ = c * unitsPerOne * (b * step) := by ring
    exact_mod_cast this

/-- A quotient is rounded to the magnitude of its rounded units. -/
theorem nearest?_of_units (h : x.units = significandOf (a * unitsPerOne) b
      * power 2 (spacing (a * unitsPerOne / b))) :
    nearest? a b = some x := by
  have hfits := And.intro (significandOf_le (a * unitsPerOne) b)
    (h ▸ x.bounded)
  unfold significandOf at h hfits
  unfold nearest?
  simp only
  rw [dif_pos hfits]
  exact congrArg some (units_injective h.symm)

/-- A magnitude is rounded to itself. -/
theorem nearest?_of_eq (hb : 0 < b) (h : (a : ℚ) / b = x.value) :
    nearest? a b = some x := by
  have hunits : a * unitsPerOne = x.units * b := by
    have hb' : (b : ℚ) ≠ 0 := by exact_mod_cast hb.ne'
    rw [value, div_eq_div_iff hb' unitsPerOne_cast_pos.ne'] at h
    exact_mod_cast h
  have hstep : 0 < power 2 (spacing x.units) := power_pos (by decide) _
  obtain ⟨m, hm⟩ := x.aligned
  have hround : significandOf (x.units * b) b = m := by
    have hexact : x.units * b = m * (b * power 2 (spacing x.units)) := by
      rw [Nat.mul_left_comm, Nat.mul_comm m, ← hm, Nat.mul_comm]
    have hden := Nat.mul_pos hb hstep
    rw [significandOf, Nat.mul_div_cancel _ hb]
    refine Nat.le_antisymm
      (divideNearest_le_of_le hden (Nat.le_of_eq hexact)) ?_
    refine Nat.le_trans ?_ (le_divideNearest _ _)
    rw [hexact, Nat.mul_div_cancel _ hden]
  apply nearest?_of_units
  rw [hunits, hround, Nat.mul_div_cancel _ hb, Nat.mul_comm]
  exact hm

/-- What lies between a quotient and the value it is rounded to is rounded
to the same. -/
theorem nearest?_of_between (hb : 0 < b) (hd : 0 < d)
    (hx : nearest? a b = some x)
    (h : (c : ℚ) / d ∈ Set.uIcc ((a : ℚ) / b) x.value) :
    nearest? c d = some x := by
  have hself : nearest? x.units unitsPerOne = some x :=
    nearest?_of_eq unitsPerOne_pos rfl
  -- something is rounded to, because a quotient that is no smaller has a
  -- nearest magnitude
  have hsome : nearest? c d ≠ none := by
    intro hnone
    obtain ⟨-, hbeyond⟩ := nearest?_eq_none_iff.mp hnone
    have hlimit : (roundingLimit : ℚ) ≤ c / d := by
      rw [le_div_iff₀ (by exact_mod_cast hd)]
      exact_mod_cast hbeyond
    have hnot {n k : Nat} (hk : 0 < k) (hn : nearest? n k = some x) :
        (n : ℚ) / k < roundingLimit := by
      rw [div_lt_iff₀ (by exact_mod_cast hk)]
      by_contra hle
      have : nearest? n k = none :=
        nearest?_eq_none_iff.mpr ⟨hk, by exact_mod_cast not_lt.mp hle⟩
      rw [this] at hn
      cases hn
    have hleft := hnot hb hx
    have hright := hnot unitsPerOne_pos hself
    rcases Set.mem_uIcc.mp h with ⟨-, hle⟩ | ⟨-, hle⟩
    · exact absurd (hlimit.trans hle) (not_le.mpr hright)
    · exact absurd (hlimit.trans hle) (not_le.mpr hleft)
  obtain ⟨y, hy⟩ := Option.ne_none_iff_exists'.mp hsome
  have hvalue : y.value = x.value := by
    rcases Set.mem_uIcc.mp h with ⟨hlow, hhigh⟩ | ⟨hlow, hhigh⟩
    · exact le_antisymm (nearest?_mono hd unitsPerOne_pos hhigh hy hself)
        (nearest?_mono hb hd hlow hx hy)
    · exact le_antisymm (nearest?_mono hd hb hhigh hy hx)
        (nearest?_mono unitsPerOne_pos hd hlow hself hy)
  rw [hy, value_injective hvalue]

-- =============================================================== nearest

/-- How far a quotient is from a magnitude, by the gap of its units. -/
theorem abs_sub_value (hb : 0 < b) (a : Nat) (y : Magnitude) :
    |(a : ℚ) / b - y.value|
      = (gap (a * unitsPerOne) b y.units : ℚ) / (b * unitsPerOne) := by
  have hone := unitsPerOne_cast_pos
  have hsub : (a : ℚ) / b - y.value
      = (((a * unitsPerOne : Nat) : ℚ) / b - y.units) / unitsPerOne := by
    rw [value, sub_div, Nat.cast_mul, mul_div_right_comm,
      mul_div_cancel_right₀ _ hone.ne']
  rw [hsub, abs_div, abs_of_pos hone, abs_div_sub hb, div_div]

theorem gap_mul (num den step n : Nat) :
    gap num (den * step) n = gap num den (n * step) := by
  rw [gap, gap, Nat.mul_comm den, Nat.mul_assoc]

/-- In units, no magnitude is nearer to a quotient than the one it is
rounded to. -/
theorem gap_units_le (hb : 0 < b) (hx : nearest? a b = some x)
    (y : Magnitude) :
    gap (a * unitsPerOne) b x.units ≤ gap (a * unitsPerOne) b y.units := by
  have hpower (n : Nat) : 0 < power 2 n := power_pos (by decide) n
  -- of the numbers of the spacing at the quotient none is nearer
  have hgrid (k : Nat) : gap (a * unitsPerOne) b x.units
      ≤ gap (a * unitsPerOne) b
        (k * power 2 (spacing (a * unitsPerOne / b))) := by
    rw [units_of_nearest? hx, ← gap_mul, ← gap_mul]
    exact (divideNearest_nearest (Nat.mul_pos hb (hpower _)) k).1
  rcases Nat.lt_or_ge (spacing y.units) (spacing (a * unitsPerOne / b))
    with hfiner | hwider
  · -- a magnitude of a finer spacing is behind the first of these numbers
    have hsmall : y.units
        ≤ power 2 52 * power 2 (spacing (a * unitsPerOne / b)) := by
      rw [← power_add]
      exact Nat.le_trans (Nat.le_of_lt (lt_power_spacing y.units))
        (power_le_power (by decide) (by omega))
    have hlarge := power_spacing_le (Nat.zero_lt_of_lt hfiner)
    rw [power_add] at hlarge
    have hfirst := (Nat.le_div_iff_mul_le hb).mp hlarge
    have hbehind := Nat.mul_le_mul_right b hsmall
    refine Nat.le_trans (hgrid (power 2 52)) ?_
    unfold gap
    omega
  · obtain ⟨k, hk⟩ := Nat.dvd_trans (power_dvd_power 2 hwider) y.aligned
    rw [hk, Nat.mul_comm _ k]
    exact hgrid k

/-- No magnitude is nearer to a quotient than the one it is rounded to. -/
theorem nearest?_nearest (hb : 0 < b) (hx : nearest? a b = some x)
    (y : Magnitude) :
    |(a : ℚ) / b - x.value| ≤ |(a : ℚ) / b - y.value| := by
  have hb' : (0 : ℚ) < b := by exact_mod_cast hb
  rw [abs_sub_value hb, abs_sub_value hb, div_le_div_iff_of_pos_right
    (mul_pos hb' unitsPerOne_cast_pos)]
  exact_mod_cast gap_units_le hb hx y

end Magnitude

end TildeFormat
