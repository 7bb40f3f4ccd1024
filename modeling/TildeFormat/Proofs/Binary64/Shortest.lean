/-
The shortest decimal of a magnitude, against what it is to be: it reads
back, no decimal that reads back has fewer digits, and of those with as
many digits none is nearer.

Two facts carry the search for it. What reads back is an interval around
the value, so on a grid of decimals one of the two neighbours of the value
reads back if anything does; hence the search ends on the coarsest grid
that has such a decimal. And a decimal with the leading digit in another
place than the value is behind a power of ten from there; so any decimal
that reads back may be taken to be on the grid of its number of digits.
-/
import Mathlib
import TildeFormat.Binary64.Notation
import TildeFormat.Proofs.Binary64.Nearest
import TildeFormat.Proofs.Decimal.Value

namespace TildeFormat

namespace Magnitude

variable {x : Magnitude} {d other : Scientific} {e : Int}

/-- The shortest decimal of a magnitude: it reads back, no other that reads
back has fewer digits, and none with as many digits is nearer. -/
structure IsShortest (x : Magnitude) (d : Scientific) : Prop where
  readsBack : x.readsBack d = true
  fewest : ∀ other, x.readsBack other = true →
    (Numeral.digits d.coefficient).length
      ≤ (Numeral.digits other.coefficient).length
  nearest : ∀ other, x.readsBack other = true →
    (Numeral.digits other.coefficient).length
      = (Numeral.digits d.coefficient).length →
    |d.value - x.value| ≤ |other.value - x.value|

-- ========================================================== reading back

theorem readsBack_iff :
    x.readsBack d = true ↔ nearest? d.numerator d.denominator = some x := by
  rw [readsBack, beq_iff_eq]

/-- What lies between the value and a decimal that reads back does so
too. -/
theorem readsBack_of_between (h : x.readsBack other = true)
    (hd : d.value ∈ Set.uIcc other.value x.value) :
    x.readsBack d = true := by
  rw [Scientific.value_eq_div, Scientific.value_eq_div] at hd
  exact readsBack_iff.mpr (nearest?_of_between other.denominator_pos
    d.denominator_pos (readsBack_iff.mp h) hd)

theorem readsBack_of_value_eq (h : x.readsBack other = true)
    (hd : d.value = other.value) : x.readsBack d = true :=
  readsBack_of_between h (hd ▸ Set.left_mem_uIcc)

theorem readsBack_of_exact (h : d.value = x.value) :
    x.readsBack d = true := by
  rw [Scientific.value_eq_div] at h
  exact readsBack_iff.mpr (nearest?_of_eq d.denominator_pos h)

/-- Only zero reads back as zero. -/
theorem coefficient_ne_zero (hx : x.units ≠ 0)
    (h : x.readsBack d = true) : d.coefficient ≠ 0 := by
  intro hzero
  have hvalue : d.value = zero.value := by
    rw [Scientific.value, value, hzero, show zero.units = 0 from rfl,
      Nat.cast_zero, zero_mul, zero_div]
  have hreads := readsBack_iff.mp (readsBack_of_exact hvalue)
  rw [readsBack_iff.mp h] at hreads
  exact hx (congrArg units (Option.some.inj hreads))

theorem value_exact (x : Magnitude) : x.exact.value = x.value := by
  unfold exact Scientific.value value unitsPerOne
  generalize unitExponent = n
  simp only
  rw [Nat.cast_mul, cast_power, cast_power, zpow_neg, zpow_natCast,
    show (10 : ℚ) = 2 * 5 by norm_num, mul_pow]
  push_cast
  field_simp

-- ================================================================= grids

/-- The value in steps of a grid is a quotient of this number. -/
def gridNumerator (x : Magnitude) (e : Int) : Nat :=
  x.units * power 10 (-e).toNat

/-- The value in steps of a grid is a quotient by this number. -/
def gridDenominator (e : Int) : Nat := unitsPerOne * power 10 e.toNat

theorem gridDenominator_pos (e : Int) : 0 < gridDenominator e :=
  Nat.mul_pos unitsPerOne_pos (power_pos (by decide) _)

theorem value_eq_grid (x : Magnitude) (e : Int) :
    x.value = (x.gridNumerator e : ℚ) / gridDenominator e * 10 ^ e := by
  have hten : (10 : ℚ) ^ e = 10 ^ e.toNat / 10 ^ (-e).toNat := by
    rw [← zpow_natCast, ← zpow_natCast, ← zpow_sub₀ (by norm_num)]
    congr 1
    omega
  have hone := unitsPerOne_cast_pos
  rw [value, gridNumerator, gridDenominator, Nat.cast_mul, Nat.cast_mul,
    cast_power, cast_power, hten, Nat.cast_ofNat]
  generalize unitsPerOne = one at *
  field_simp

/-- How far a decimal of a grid is from the value. -/
theorem abs_grid_sub_value (x : Magnitude) (k : Nat) (e : Int) :
    |Scientific.value ⟨k, e⟩ - x.value|
      = (gap (x.gridNumerator e) (gridDenominator e) k : ℚ)
        / gridDenominator e * 10 ^ e := by
  have hten : (0 : ℚ) < 10 ^ e := by positivity
  rw [x.value_eq_grid e, Scientific.value, ← sub_mul, abs_mul, abs_sub_comm,
    abs_of_pos hten, abs_div_sub (gridDenominator_pos e)]

theorem grid_le_grid_iff {m n : Nat} :
    Scientific.value ⟨m, e⟩ ≤ Scientific.value ⟨n, e⟩ ↔ m ≤ n := by
  have hten : (0 : ℚ) < 10 ^ e := by positivity
  rw [Scientific.value, Scientific.value, mul_le_mul_iff_of_pos_right hten]
  exact Nat.cast_le

/-- The value is at or behind a decimal of a grid just when the steps up to
it are no fewer. -/
theorem grid_le_value_iff {k : Nat} :
    Scientific.value ⟨k, e⟩ ≤ x.value
      ↔ k ≤ x.gridNumerator e / gridDenominator e := by
  have hten : (0 : ℚ) < 10 ^ e := by positivity
  have hden : (0 : ℚ) < gridDenominator e := by
    exact_mod_cast gridDenominator_pos e
  rw [x.value_eq_grid e, Scientific.value, mul_le_mul_iff_of_pos_right hten,
    Nat.le_div_iff_mul_le (gridDenominator_pos e), le_div_iff₀ hden]
  exact_mod_cast Iff.rfl

/-- The neighbours of the value on a grid: the steps up to it and one step
more, the nearer one first. -/
theorem neighbours_eq (x : Magnitude) (e : Int) :
    x.neighbours e
      = [⟨divideNearest (x.gridNumerator e) (gridDenominator e), e⟩,
        ⟨if divideNearest (x.gridNumerator e) (gridDenominator e)
            = x.gridNumerator e / gridDenominator e
          then x.gridNumerator e / gridDenominator e + 1
          else x.gridNumerator e / gridDenominator e, e⟩] := rfl

theorem exponent_of_mem_neighbours (h : d ∈ x.neighbours e) :
    d.exponent = e := by
  rw [neighbours_eq] at h
  rcases List.mem_pair.mp h with rfl | rfl <;> rfl

theorem mem_neighbours_iff {k : Nat} :
    (⟨k, e⟩ : Scientific) ∈ x.neighbours e
      ↔ k = x.gridNumerator e / gridDenominator e
        ∨ k = x.gridNumerator e / gridDenominator e + 1 := by
  have hcases :=
    divideNearest_cases (x.gridNumerator e) (gridDenominator e)
  rw [neighbours_eq, List.mem_pair, Scientific.mk.injEq,
    Scientific.mk.injEq]
  generalize divideNearest (x.gridNumerator e) (gridDenominator e) = near
    at *
  generalize x.gridNumerator e / gridDenominator e = below at *
  rcases hcases with ⟨rfl, -⟩ | ⟨rfl, -⟩
  · rw [if_pos rfl]
    simp
  · rw [if_neg (by omega)]
    simp [or_comm]

/-- Between a decimal of a grid and the value is a neighbour of the
value. -/
theorem exists_neighbour_between (x : Magnitude) (k : Nat) (e : Int) :
    ∃ d ∈ x.neighbours e,
      d.value ∈ Set.uIcc (Scientific.value ⟨k, e⟩) x.value := by
  rcases Nat.lt_or_ge (x.gridNumerator e / gridDenominator e) k
    with hmore | hle
  · refine ⟨_, mem_neighbours_iff.mpr (.inr rfl), Set.mem_uIcc_of_ge ?_ ?_⟩
    · exact (not_le.mp fun h =>
        absurd (grid_le_value_iff.mp h) (by omega)).le
    · exact grid_le_grid_iff.mpr hmore
  · exact ⟨_, mem_neighbours_iff.mpr (.inl rfl),
      Set.mem_uIcc_of_le (grid_le_grid_iff.mpr hle)
        (grid_le_value_iff.mpr (Nat.le_refl _))⟩

theorem abs_sub_le_of_between
    (h : d.value ∈ Set.uIcc other.value x.value) :
    |d.value - x.value| ≤ |other.value - x.value| := by
  rw [abs_sub_comm d.value, abs_sub_comm other.value]
  exact Set.abs_sub_right_of_mem_uIcc h

/-- The first neighbour is the nearest decimal of its grid. -/
theorem abs_nearest_sub_le (x : Magnitude) (k : Nat) (e : Int) :
    |Scientific.value ⟨divideNearest (x.gridNumerator e)
        (gridDenominator e), e⟩ - x.value|
      ≤ |Scientific.value ⟨k, e⟩ - x.value| := by
  have hten : (0 : ℚ) < 10 ^ e := by positivity
  have hden : (0 : ℚ) < gridDenominator e := by
    exact_mod_cast gridDenominator_pos e
  rw [abs_grid_sub_value, abs_grid_sub_value,
    mul_le_mul_iff_of_pos_right hten, div_le_div_iff_of_pos_right hden]
  exact_mod_cast (divideNearest_nearest (gridDenominator_pos e) k).1

/-- On a grid with a decimal that reads back a neighbour of the value is
found, and none that reads back is nearer. -/
theorem find_neighbours (h : x.readsBack other = true) :
    ∃ d, (x.neighbours other.exponent).find? x.readsBack = some d
      ∧ |d.value - x.value| ≤ |other.value - x.value| := by
  obtain ⟨d, hmem, hd⟩ :=
    x.exists_neighbour_between other.coefficient other.exponent
  have hreads := readsBack_of_between h hd
  rw [neighbours_eq] at hmem ⊢
  rw [List.find?_cons]
  split
  · exact ⟨_, rfl, abs_nearest_sub_le x _ _⟩
  · next hnear =>
    -- the nearer one does not read back, so the other one is between
    rcases List.mem_pair.mp hmem with rfl | rfl
    · rw [hnear] at hreads
      cases hreads
    · exact ⟨_, List.find?_cons_of_pos hreads, abs_sub_le_of_between hd⟩

-- ========================================================= leading digit

/-- The value has its leading digit at the leading exponent. -/
theorem leadingExponent_bounds (hx : x.units ≠ 0) :
    (10 : ℚ) ^ x.leadingExponent ≤ x.value
      ∧ x.value < 10 ^ (x.leadingExponent + 1) := by
  have hsteps : x.units * power 10 324 / unitsPerOne
      = x.gridNumerator (-324) / gridDenominator (-324) := by
    rw [gridDenominator, show power 10 (-324 : Int).toNat = 1 from rfl,
      Nat.mul_one]
    rfl
  have hnonzero : x.units * power 10 324 / unitsPerOne ≠ 0 := by
    refine Nat.ne_of_gt (Nat.div_pos ?_ unitsPerOne_pos)
    exact Nat.le_trans (by decide +kernel : unitsPerOne ≤ power 10 324)
      (Nat.le_mul_of_pos_left _ (Nat.pos_of_ne_zero hx))
  have hlow := Numeral.power_length_digits_le hnonzero
  have hhigh := Numeral.lt_power_length_digits
    (x.units * power 10 324 / unitsPerOne)
  have hlength := Numeral.length_digits_pos
    (x.units * power 10 324 / unitsPerOne)
  unfold leadingExponent
  generalize (Numeral.digits (x.units * power 10 324 / unitsPerOne)).length
    = length at *
  rw [hsteps, ← grid_le_value_iff, Scientific.value_power] at hlow
  rw [hsteps, ← not_le, ← grid_le_value_iff, Scientific.value_power,
    not_le] at hhigh
  rw [show (length : Int) - 325 = -324 + (length - 1 : Nat) by omega]
  refine ⟨hlow, ?_⟩
  rwa [show (-324 : Int) + (length - 1 : Nat) + 1 = -324 + length by omega]

/-- The coefficient of a neighbour of the value is at most one behind it. -/
theorem coefficient_neighbour_le {m : Nat} (hd : d ∈ x.neighbours e)
    (h : x.value < Scientific.value ⟨m, e⟩) : d.coefficient ≤ m := by
  have hexponent := exponent_of_mem_neighbours hd
  have hbelow : x.gridNumerator e / gridDenominator e < m :=
    Nat.lt_of_not_le fun hle => absurd (grid_le_value_iff.mpr hle)
      (not_le.mpr h)
  subst hexponent
  rcases mem_neighbours_iff.mp hd with hlow | hhigh <;> omega

/-- A decimal that reads back has another no further from the value on the
grid where the value has as many digits: itself, or the power of ten between
it and the value. -/
theorem exists_on_grid (hx : x.units ≠ 0)
    (h : x.readsBack other = true) :
    ∃ near, x.readsBack near = true
      ∧ near.exponent = x.leadingExponent + 1
        - (Numeral.digits other.coefficient).length
      ∧ |near.value - x.value| ≤ |other.value - x.value| := by
  obtain ⟨hlow, hhigh⟩ := leadingExponent_bounds hx
  obtain ⟨hleast, hmost⟩ :=
    Scientific.value_bounds (coefficient_ne_zero hx h)
  have hlength := Numeral.length_digits_pos other.coefficient
  suffices hnear : ∃ k, Scientific.value ⟨k, x.leadingExponent + 1
        - (Numeral.digits other.coefficient).length⟩
      ∈ Set.uIcc other.value x.value by
    obtain ⟨k, hk⟩ := hnear
    exact ⟨_, readsBack_of_between h hk, rfl, abs_sub_le_of_between hk⟩
  unfold Scientific.point at hleast hmost
  generalize (Numeral.digits other.coefficient).length = length at *
  rcases lt_trichotomy (length + other.exponent) (x.leadingExponent + 1)
    with hless | hsame | hmore
  · -- the power of ten at the leading digit is between
    refine ⟨power 10 (length - 1), ?_⟩
    rw [Scientific.value_power, show x.leadingExponent + 1 - (length : Int)
      + (length - 1 : Nat) = x.leadingExponent by omega]
    exact Set.mem_uIcc_of_le
      (hmost.le.trans (zpow_le_zpow_right₀ (by norm_num) (by omega))) hlow
  · refine ⟨other.coefficient, ?_⟩
    rw [show x.leadingExponent + 1 - (length : Int) = other.exponent by
      omega]
    exact Set.left_mem_uIcc
  · -- the power of ten behind the leading digit is between
    refine ⟨power 10 length, ?_⟩
    rw [Scientific.value_power, sub_add_cancel]
    exact Set.mem_uIcc_of_ge hhigh.le
      ((zpow_le_zpow_right₀ (by norm_num) (by omega)).trans hleast)

-- ================================================================ search

/-- What the search finds: a neighbour that reads back on the coarsest grid
with one that does, from a grid downwards. -/
structure IsCoarsest (x : Magnitude) (start : Int) (d : Scientific) : Prop
    where
  readsBack : x.readsBack d = true
  neighbour : d ∈ x.neighbours d.exponent
  exponent_le : d.exponent ≤ start
  coarsest : ∀ other, x.readsBack other = true → other.exponent ≤ start →
    other.exponent ≤ d.exponent
  nearest : ∀ other, x.readsBack other = true →
    other.exponent = d.exponent →
    |d.value - x.value| ≤ |other.value - x.value|

/-- What is found on a grid is the coarsest there. -/
theorem isCoarsest_of_find
    (h : (x.neighbours e).find? x.readsBack = some d) :
    x.IsCoarsest e d := by
  have hmem := List.mem_of_find?_eq_some h
  have hexponent := exponent_of_mem_neighbours hmem
  refine ⟨List.find?_some h, hexponent ▸ hmem, hexponent.le,
    fun other _ hle => hexponent ▸ hle, fun other hother hsame => ?_⟩
  obtain ⟨found, hfound, hnear⟩ := find_neighbours hother
  rw [hsame, hexponent, h] at hfound
  exact Option.some.inj hfound ▸ hnear

/-- The search ends on the coarsest grid with a decimal that reads back: at
the latest where the value is itself on the grid. -/
theorem searchDown_isCoarsest {grids : Nat}
    (hgrids : (grids : Int) = e - x.exact.exponent + 1)
    (he : x.exact.exponent ≤ e) :
    x.IsCoarsest e (x.searchDown grids e) := by
  induction grids generalizing e with
  | zero => omega
  | succ grids ih =>
      cases hfind : (x.neighbours e).find? x.readsBack with
      | some d =>
          rw [searchDown, hfind, Option.getD_some]
          exact isCoarsest_of_find hfind
      | none =>
          have hbare (other : Scientific) (h : x.readsBack other = true) :
              other.exponent ≠ e := by
            rintro rfl
            obtain ⟨found, hfound, -⟩ := find_neighbours h
            rw [hfind] at hfound
            cases hfound
          have hexact := hbare _ (readsBack_of_exact x.value_exact)
          have hrest := ih (e := e - 1) (by omega) (by omega)
          rw [searchDown, hfind, Option.getD_none]
          refine ⟨hrest.readsBack, hrest.neighbour, ?_,
            fun other hother hle => hrest.coarsest other hother ?_,
            hrest.nearest⟩
          · have := hrest.exponent_le
            omega
          · have := hbare other hother
            omega

-- ============================================================== shortest

/-- The leading digit is no further behind the point than the search
goes. -/
theorem exact_exponent_le (x : Magnitude) :
    x.exact.exponent ≤ x.leadingExponent := by
  show -((1074 : Nat) : Int) ≤ x.leadingExponent
  unfold leadingExponent
  omega

/-- No decimal that reads back has fewer digits than the value has on the
grid of what is found. -/
theorem IsCoarsest.digits_le (h : x.IsCoarsest x.leadingExponent d)
    (hx : x.units ≠ 0) (hother : x.readsBack other = true) :
    x.leadingExponent + 1 - d.exponent
      ≤ (Numeral.digits other.coefficient).length := by
  obtain ⟨near, hnear, hexponent, -⟩ := exists_on_grid hx hother
  have hlength := Numeral.length_digits_pos other.coefficient
  have := h.coarsest near hnear (by omega)
  omega

/-- What is found has no more digits left than the value has on its
grid. -/
theorem IsCoarsest.length_digits_trimmed
    (h : x.IsCoarsest x.leadingExponent d) (hx : x.units ≠ 0) :
    (Numeral.digits d.trimmed.coefficient).length
      ≤ x.leadingExponent + 1 - d.exponent := by
  have hle := h.exponent_le
  have hcount : ((x.leadingExponent + 1 - d.exponent).toNat : Int)
      = x.leadingExponent + 1 - d.exponent := by
    omega
  rw [← hcount, Nat.cast_le]
  refine Scientific.length_digits_trimmed_le (by omega)
    (coefficient_neighbour_le h.neighbour ?_)
  rw [Scientific.value_power, hcount, add_sub_cancel]
  exact (leadingExponent_bounds hx).2

/-- What is found is the shortest decimal, without the zeros at its end. -/
theorem IsCoarsest.isShortest (h : x.IsCoarsest x.leadingExponent d)
    (hx : x.units ≠ 0) : x.IsShortest d.trimmed := by
  have hreads : x.readsBack d.trimmed = true :=
    readsBack_of_value_eq h.readsBack d.value_trimmed
  have hmost := h.length_digits_trimmed hx
  refine ⟨hreads, fun other hother => ?_, fun other hother hsame => ?_⟩
  · have := h.digits_le hx hother
    omega
  · -- with as many digits, what is on the grid of the other one is on the
    -- grid of what is found
    have hleast := h.digits_le hx hreads
    obtain ⟨near, hnear, hexponent, hdistance⟩ := exists_on_grid hx hother
    rw [d.value_trimmed]
    exact (h.nearest near hnear (by omega)).trans hdistance

/-- The decimal that is written for a magnitude is the shortest one. -/
theorem isShortest_shortest (x : Magnitude) : x.IsShortest x.shortest := by
  by_cases hx : x.units = 0
  · have hshortest : x.shortest = ⟨0, 0⟩ := if_pos hx
    have hvalue : Scientific.value ⟨0, 0⟩ = x.value := by
      rw [Scientific.value, value, hx, Nat.cast_zero, zero_mul, zero_div]
    rw [hshortest]
    refine ⟨readsBack_of_exact hvalue, fun other _ => ?_,
      fun other _ _ => ?_⟩
    · rw [Numeral.digits_of_lt (by decide)]
      exact Numeral.length_digits_pos _
    · rw [hvalue, sub_self, abs_zero]
      exact abs_nonneg _
  · have hexact := x.exact_exponent_le
    have hsearch : x.IsCoarsest x.leadingExponent (x.searchDown
        (x.leadingExponent + unitExponent + 1).toNat x.leadingExponent) := by
      refine searchDown_isCoarsest ?_ hexact
      show _ = x.leadingExponent - -(unitExponent : Int) + 1
      have : -(unitExponent : Int) ≤ x.leadingExponent := hexact
      omega
    rw [shortest, if_neg hx]
    exact hsearch.isShortest hx

/-- Zero is written without a power of ten. -/
theorem exponent_shortest (h : x.shortest.coefficient = 0) :
    x.shortest.exponent = 0 := by
  by_cases hx : x.units = 0
  · rw [shortest, if_pos hx]
  · exact absurd h (coefficient_ne_zero hx x.isShortest_shortest.readsBack)

end Magnitude

-- ============================================================== notations

namespace Binary64

open Magnitude

/-- The positional notation of a value without a sign has a numeral before
its point and at least one digit behind it. It denotes the shortest decimal
of the value, as the other notation does, and the value is the nearest one
to it. -/
theorem plainText_shortest (x : Magnitude) :
    ∃ d whole fraction plain shown,
      x.IsShortest d
        ∧ (finite false x).plainText = whole ++ .scalar '.' :: fraction
        ∧ Scientific.Pointed plain whole fraction
        ∧ Decimal.size? (finite false x).plainText = some plain
        ∧ Decimal.size? (finite false x).text = some shown
        ∧ plain.value = d.value
        ∧ shown.value = d.value
        ∧ nearest? plain.numerator plain.denominator = some x
        ∧ ∀ y : Magnitude,
          |plain.value - x.value| ≤ |plain.value - y.value| := by
  have hshortest := x.isShortest_shortest
  have hvalue := x.shortest.value_spelled
  obtain ⟨whole, fraction, htext, hpointed⟩ :=
    Scientific.positional_pointed (@exponent_shortest x)
  have hplain : Decimal.size? x.shortest.positional
      = some x.shortest.spelled := htext ▸ hpointed.size?
  have hreads := readsBack_iff.mp
    (readsBack_of_value_eq hshortest.readsBack hvalue)
  have hnearest (y : Magnitude) : |x.shortest.spelled.value - x.value|
      ≤ |x.shortest.spelled.value - y.value| := by
    rw [Scientific.value_eq_div]
    exact nearest?_nearest (Scientific.denominator_pos _) hreads y
  obtain ⟨shown, hshown, hsame⟩ : ∃ shown,
      Decimal.size? x.text = some shown
        ∧ shown.value = x.shortest.value := by
    unfold Magnitude.text
    simp only
    split
    · exact ⟨_, hplain, hvalue⟩
    · exact ⟨_, x.shortest.size?_exponential, rfl⟩
  exact ⟨x.shortest, whole, fraction, x.shortest.spelled, shown, hshortest,
    htext, hpointed, hplain, hshown, hvalue, hsame, hreads, hnearest⟩

end Binary64

end TildeFormat
