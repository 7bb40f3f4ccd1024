/-
Rounding to a number of decimal places. The value of a magnitude is
exact, so the numeral it is rounded to can be told without saying how it
is found: no other numeral with as many places is nearer to the value, and
where another one is as near the last digit is even.

That the steps of the last place are counted this way is a fact about
rounded quotients, and it survives being written down because the digits of
a number denote it: cutting them at the point and filling the places up
with zeros changes nothing.
-/
import TildeFormat.Proofs.Binary64.Ceiling
import TildeFormat.Proofs.Numeral

namespace TildeFormat

-- ===================================================== nearest numbers

/-- How far a number is from a quotient, in parts of the denominator. -/
def gap (num den n : Nat) : Nat := ((num : Int) - (n * den : Nat)).natAbs

/-- A number is one of two neighbours, or a whole step below or above
both. -/
theorem neighbour_or_beyond (k q den : Nat) :
    k = q ∨ k = q + 1 ∨ k * den + den ≤ q * den
      ∨ q * den + 2 * den ≤ k * den := by
  rcases Nat.lt_or_ge k q with hless | hge
  · have := Nat.mul_le_mul_right den hless
    rw [Nat.succ_mul] at this
    exact .inr (.inr (.inl this))
  · rcases Nat.lt_or_ge (q + 1) k with hmore | hle
    · have := Nat.mul_le_mul_right den hmore
      rw [Nat.succ_mul, Nat.succ_mul] at this
      exact .inr (.inr (.inr (by omega)))
    · omega

/-- No number is nearer to a quotient than the one it is rounded to, and
where another one is as near that one is even. -/
theorem divideNearest_nearest {num den : Nat} (hden : 0 < den) (k : Nat) :
    gap num den (divideNearest num den) ≤ gap num den k
      ∧ (k ≠ divideNearest num den →
        gap num den k = gap num den (divideNearest num den) →
          divideNearest num den % 2 = 0) := by
  have hnum := Nat.div_add_mod num den
  have hrem := Nat.mod_lt num hden
  have hcases := divideNearest_cases num den
  have hk := neighbour_or_beyond k (num / den) den
  unfold gap
  generalize divideNearest num den = n at *
  generalize num / den = q at *
  generalize num % den = r at *
  rw [Nat.mul_comm] at hnum
  have hnext : (q + 1) * den = q * den + den := Nat.succ_mul q den
  rcases hcases with ⟨rfl, h⟩ | ⟨rfl, h⟩
  · -- rounded down: the part left over is at most a half
    rcases hk with rfl | rfl | hk | hk <;> omega
  · -- rounded up: what is missing is at most a half
    rcases hk with rfl | rfl | hk | hk <;> omega

-- ============================================================ numerals

namespace Magnitude

/-- Digits before and behind the point of the numeral with `places` places
that a magnitude is rounded to. -/
structure RoundedTo (x : Magnitude) (places : Nat)
    (whole fraction : Text) : Prop where
  whole_digits : ∀ c ∈ whole, c.isDigit = true
  whole_ne_nil : whole ≠ []
  whole_head : whole.head? = some (.scalar '0') → whole = [.scalar '0']
  fraction_digits : ∀ c ∈ fraction, c.isDigit = true
  fraction_length : fraction.length = places
  nearest : ∀ steps,
    gap (x.units * power 10 places) unitsPerOne
        (Numeral.value (whole ++ fraction))
      ≤ gap (x.units * power 10 places) unitsPerOne steps
  tie_even : ∀ steps, steps ≠ Numeral.value (whole ++ fraction) →
    gap (x.units * power 10 places) unitsPerOne steps
      = gap (x.units * power 10 places) unitsPerOne
        (Numeral.value (whole ++ fraction)) →
    ∃ last, (whole ++ fraction).getLast? = some last
      ∧ Numeral.digitValue last % 2 = 0

/-- The places behind the point. -/
def fractionDigits (places steps : Nat) : Text :=
  if places = 0 then []
  else Numeral.filled places (steps % power 10 places)

/-- The digits behind the point are digits, -/
theorem isDigit_of_mem_fractionDigits {places steps : Nat} {c : Character}
    (h : c ∈ fractionDigits places steps) : c.isDigit = true := by
  unfold fractionDigits at h
  split at h
  · cases h
  · exact Numeral.isDigit_of_mem_filled h

/-- as many as there are places, -/
theorem length_fractionDigits (places steps : Nat) :
    (fractionDigits places steps).length = places := by
  unfold fractionDigits
  split
  · next hzero => exact hzero.symm
  · next hpos =>
    exact Numeral.length_filled (Nat.pos_of_ne_zero hpos)
      (Nat.mod_lt _ (power_pos (by decide) _))

/-- and denote what is left of the steps. -/
theorem value_fractionDigits (places steps : Nat) :
    Numeral.value (fractionDigits places steps)
      = steps % power 10 places := by
  unfold fractionDigits
  split
  · next hzero =>
    rw [hzero, show power 10 0 = 1 from rfl, Nat.mod_one]
    rfl
  · exact Numeral.value_filled _ _

/-- Cut at the point, the digits denote all of the steps. -/
theorem value_digits_append_fractionDigits (places steps : Nat) :
    Numeral.value (Numeral.digits (steps / power 10 places)
      ++ fractionDigits places steps) = steps := by
  rw [Numeral.value_append, Numeral.value_digits, value_fractionDigits,
    length_fractionDigits, Nat.mul_comm]
  exact Nat.div_add_mod _ _

theorem power_lt_power_left {a b n : Nat} (hlt : a < b) (hn : n ≠ 0) :
    power a n < power b n :=
  Nat.pow_lt_pow_left hlt hn

/-- The whole part of a rounded value has no more digits than the largest
finite value has binary ones. -/
theorem length_digits_whole_le (x : Magnitude) (places : Nat) :
    (Numeral.digits (x.stepsAt places / power 10 places)).length
      ≤ 1024 := by
  have hunits : x.units * power 10 places
      ≤ power 2 1024 * power 10 places * unitsPerOne := by
    have hle : x.units ≤ power 2 1024 * unitsPerOne := by
      refine Nat.le_of_lt (Nat.lt_of_lt_of_eq x.bounded ?_)
      rw [unitsLimit, topSpacing, significandLimit_eq, unitsPerOne,
        unitExponent, ← power_add, ← power_add]
    rw [Nat.mul_right_comm]
    exact Nat.mul_le_mul_right _ hle
  have hwhole : x.stepsAt places / power 10 places ≤ power 2 1024 :=
    Nat.div_le_of_le_mul (Nat.mul_comm _ _ ▸
      divideNearest_le_of_le unitsPerOne_pos hunits)
  exact Numeral.length_digits_le (by decide) (Nat.lt_of_le_of_lt hwhole
    (power_lt_power_left (by decide) (by decide)))

/-- The text with a number of places is the numeral the magnitude is
rounded to. -/
theorem fixedText_rounded (x : Magnitude) (places : Nat) :
    ∃ whole fraction, x.fixedText places = whole ++ .scalar '.' :: fraction
      ∧ x.RoundedTo places whole fraction ∧ whole.length ≤ 1024 := by
  have hvalue :=
    value_digits_append_fractionDigits places (x.stepsAt places)
  refine ⟨Numeral.digits (x.stepsAt places / power 10 places),
    fractionDigits places (x.stepsAt places), rfl, ?_,
    length_digits_whole_le x places⟩
  have hnearest := @divideNearest_nearest (x.units * power 10 places) _
    unitsPerOne_pos
  exact {
    whole_digits := fun _ => Numeral.isDigit_of_mem_digits
    whole_ne_nil := Numeral.digits_ne_nil _
    whole_head := Numeral.eq_of_head?_digits
    fraction_digits := fun _ => isDigit_of_mem_fractionDigits
    fraction_length := length_fractionDigits _ _
    nearest := by
      intro steps
      rw [hvalue]
      exact (hnearest steps).1
    tie_even := by
      intro steps hne htie
      rw [hvalue] at hne htie
      have heven := (hnearest steps).2 hne htie
      have hlast := List.getLast?_eq_some_getLast
        (List.append_ne_nil_of_left_ne_nil (Numeral.digits_ne_nil
          (x.stepsAt places / power 10 places))
          (fractionDigits places (x.stepsAt places)))
      refine ⟨_, hlast, ?_⟩
      rw [Numeral.digitValue_mod_two hlast, hvalue]
      exact heven }

end Magnitude

end TildeFormat
