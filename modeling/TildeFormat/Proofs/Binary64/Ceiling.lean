/-
Ceilings of rounded quotients. The number of blocks of a padding is the
ceiling of a quotient that was rounded to binary64 first, and rounding can
move a quotient onto a whole number from above or past it. While the blocks
together are fewer than the first number of more than 53 binary digits,
neither happens: two whole numbers so small have neighbours in binary64
between them, and what a quotient exceeds a whole number by, at least one
part of its denominator, is more than half the distance of neighbours
there. So the blocks are as many as the exact quotient asks for.

Blocks that together reach that number can be too few. Still, rounding goes
down to a whole number from above only where the number is nothing, which
takes a quotient of at most half the smallest magnitude, or where that many
blocks reach the limit themselves.
-/
import TildeFormat.Proofs.Field.Domain

namespace TildeFormat

-- ============================================== rounding at whole numbers

/-- Rounding does not go above a whole number the quotient is not
above. -/
theorem divideNearest_le_of_le {num den k : Nat} (hden : 0 < den)
    (h : num ≤ k * den) : divideNearest num den ≤ k := by
  have hquotient : num / den ≤ k :=
    Nat.div_le_of_le_mul (by rwa [Nat.mul_comm])
  rcases Nat.lt_or_eq_of_le hquotient with hlt | heq
  · exact Nat.le_trans (divideNearest_le num den) hlt
  · have hnum := Nat.div_add_mod num den
    rw [heq, Nat.mul_comm] at hnum
    rcases divideNearest_cases num den with ⟨hround, -⟩ | ⟨-, hmore⟩
    · exact Nat.le_of_eq (hround.trans heq)
    · omega

/-- Rounding goes above a whole number the quotient is more than a half
above. -/
theorem lt_divideNearest {num den k : Nat} (hden : 0 < den)
    (h : (2 * k + 1) * den < 2 * num) : k < divideNearest num den := by
  have hnum := Nat.div_add_mod num den
  have hrem := Nat.mod_lt num hden
  rw [Nat.mul_comm] at hnum
  rcases divideNearest_cases num den with ⟨hround, hless⟩ | ⟨hround, -⟩
  · have hlt : (2 * k + 1) * den < (2 * (num / den) + 1) * den := by
      rw [Nat.add_mul (2 * (num / den)), Nat.one_mul, Nat.mul_assoc]
      omega
    have := Nat.lt_of_mul_lt_mul_right hlt
    omega
  · have hlt : (2 * k + 1) * den < (2 * (num / den + 1)) * den := by
      rw [Nat.mul_assoc, Nat.add_mul (num / den), Nat.one_mul]
      omega
    have := Nat.lt_of_mul_lt_mul_right hlt
    omega

namespace Magnitude

-- ================================================= neighbours of a quotient

variable {num den : Nat}

/-- A quotient below the limit of the significands is a multiple of no
more than one. -/
theorem spacing_le_unitExponent
    (hnum : num < significandLimit) :
    spacing (num * unitsPerOne / den) ≤ unitExponent := by
  have hunits : num * unitsPerOne / den < power 2 (53 + unitExponent) := by
    refine Nat.lt_of_le_of_lt (Nat.div_le_self _ _) ?_
    rw [power_add, ← significandLimit_eq, ← unitsPerOne]
    exact Nat.mul_lt_mul_of_pos_right hnum unitsPerOne_pos
  rcases Nat.eq_zero_or_pos (spacing (num * unitsPerOne / den)) with h | h
  · omega
  · have hle := Nat.lt_of_le_of_lt (power_spacing_le h) hunits
    by_cases hbig : 53 + unitExponent
        ≤ 52 + spacing (num * unitsPerOne / den)
    · exact absurd (power_le_power (by decide) hbig) (Nat.not_le.mpr hle)
    · omega

/-- What a quotient is at least above a whole number below it, one part of
its denominator, is more than half the distance of neighbours. -/
theorem mul_spacing_lt (hden : den < significandLimit)
    (hnum : num < significandLimit) :
    den * power 2 (spacing (num * unitsPerOne / den))
      < 2 * unitsPerOne := by
  have hone : significandLimit ≤ unitsPerOne := by
    rw [significandLimit_eq]
    exact power_le_power (by decide) (by decide)
  rcases Nat.eq_zero_or_pos (spacing (num * unitsPerOne / den)) with h | h
  · rw [h, show power 2 0 = 1 from rfl]
    omega
  · have hle : power 2 (52 + spacing (num * unitsPerOne / den)) * den
        ≤ num * unitsPerOne :=
      Nat.le_trans (Nat.mul_le_mul_right den (power_spacing_le h))
        (Nat.div_mul_le_self _ _)
    have hlt : num * unitsPerOne < significandLimit * unitsPerOne :=
      Nat.mul_lt_mul_of_pos_right hnum unitsPerOne_pos
    have htwo : significandLimit = power 2 52 * 2 := by decide
    rw [power_add, Nat.mul_assoc, Nat.mul_comm _ den] at hle
    rw [htwo, Nat.mul_assoc] at hlt
    exact Nat.lt_of_mul_lt_mul_left (Nat.lt_of_le_of_lt hle hlt)

-- ================================================================ ceiling

/-- The nearest magnitude is a rounded number of steps between
neighbours. -/
theorem units_of_nearest? {x : Magnitude} (h : nearest? num den = some x) :
    x.units = divideNearest (num * unitsPerOne)
        (den * power 2 (spacing (num * unitsPerOne / den)))
      * power 2 (spacing (num * unitsPerOne / den)) := by
  unfold nearest? at h
  simp only at h
  split at h
  · cases h
    rfl
  · cases h

/-- Between two whole numbers a quotient is rounded, in steps of which a
whole number has `steps`, to one that is above the lower and not above the
upper number, when a part of its denominator is more than half a step. -/
theorem rounded_between {below steps step : Nat} (hden : 0 < den)
    (hstep : 0 < step) (hlow : below * den < num)
    (hhigh : num ≤ below * den + den)
    (hhalf : den * step < 2 * (steps * step)) :
    below * (steps * step)
        < divideNearest (num * (steps * step)) (den * step) * step
      ∧ divideNearest (num * (steps * step)) (den * step) * step
        ≤ (below + 1) * (steps * step) := by
  have hden' : 0 < den * step := Nat.mul_pos hden hstep
  have hlower : (2 * (below * steps) + 1) * (den * step)
      < 2 * (num * (steps * step)) :=
    calc (2 * (below * steps) + 1) * (den * step)
        = 2 * (below * den * (steps * step)) + den * step := by grind
      _ < 2 * (below * den * (steps * step)) + 2 * (steps * step) := by
          omega
      _ = 2 * ((below * den + 1) * (steps * step)) := by grind
      _ ≤ 2 * (num * (steps * step)) :=
        Nat.mul_le_mul_left 2 (Nat.mul_le_mul_right _ hlow)
  have hupper : num * (steps * step)
      ≤ (below + 1) * steps * (den * step) :=
    calc num * (steps * step)
        ≤ (below * den + den) * (steps * step) :=
          Nat.mul_le_mul_right _ hhigh
      _ = (below + 1) * steps * (den * step) := by grind
  rw [← Nat.mul_assoc below, ← Nat.mul_assoc (below + 1)]
  exact ⟨Nat.mul_lt_mul_of_pos_right (lt_divideNearest hden' hlower) hstep,
    Nat.mul_le_mul_right step (divideNearest_le_of_le hden' hupper)⟩

/-- A positive quotient whose ceiling, times its denominator, is below the
limit of the significands keeps that ceiling when it is rounded. -/
theorem ceiling_nearest? {count : Nat} (hden : 0 < den) (hnum : 0 < num)
    (hle : num ≤ count * den) (hlt : count * den < num + den)
    (hfits : count * den < significandLimit) :
    ∃ x, nearest? num den = some x
      ∧ (x.units + (unitsPerOne - 1)) / unitsPerOne = count := by
  obtain ⟨below, rfl⟩ : ∃ below, count = below + 1 := by
    cases count with
    | zero => omega
    | succ below => exact ⟨below, rfl⟩
  rw [Nat.add_mul, Nat.one_mul] at hle hlt hfits
  have hnumfits : num < significandLimit := by omega
  have hdenfits : den < significandLimit := by omega
  -- the number one is a whole number of steps between neighbours
  obtain ⟨steps, hsteps⟩ : ∃ steps, unitsPerOne
      = steps * power 2 (spacing (num * unitsPerOne / den)) :=
    ⟨_, (Nat.div_mul_cancel (power_dvd_power 2
      (spacing_le_unitExponent hnumfits))).symm⟩
  have hhalf := mul_spacing_lt hdenfits hnumfits
  have hnearest : nearest? num den ≠ none := by
    rw [Ne, nearest?_eq_none_iff]
    refine not_beyond_of_lt (n := num) (Int.natCast_nonneg num) ?_
    unfold significandLimit at hnumfits
    unfold countLimit
    omega
  obtain ⟨x, hx⟩ := Option.ne_none_iff_exists'.mp hnearest
  refine ⟨x, hx, ?_⟩
  have hunits := units_of_nearest? hx
  have hone := unitsPerOne_pos
  have hstep : 0 < power 2 (spacing (num * unitsPerOne / den)) :=
    power_pos (by decide) _
  generalize power 2 (spacing (num * unitsPerOne / den)) = step at *
  generalize unitsPerOne = one at *
  subst hsteps
  obtain ⟨hlower, hupper⟩ :=
    rounded_between hden hstep (by omega) hle hhalf
  rw [← hunits] at hlower hupper
  refine Nat.div_eq_of_lt_le ?_ ?_
  · rw [Nat.add_mul, Nat.one_mul]
    omega
  · rw [Nat.add_mul, Nat.one_mul]
    omega

-- ======================================================== beyond the limit

variable {x : Magnitude}

/-- Whole steps below a quotient stay below what it is rounded to. -/
theorem mul_le_units (h : nearest? num den = some x) :
    num * unitsPerOne / den
        / power 2 (spacing (num * unitsPerOne / den))
      * power 2 (spacing (num * unitsPerOne / den)) ≤ x.units := by
  rw [units_of_nearest? h, Nat.div_div_eq_div_mul]
  exact Nat.mul_le_mul_right _ (le_divideNearest _ _)

/-- With more than 53 binary digits a quotient is at least this large. -/
theorem power_le_units (h : nearest? num den = some x)
    (hs : 0 < spacing (num * unitsPerOne / den)) :
    power 2 (52 + spacing (num * unitsPerOne / den)) ≤ x.units := by
  refine Nat.le_trans ?_ (mul_le_units h)
  have hpos : 0 < power 2 (spacing (num * unitsPerOne / den)) :=
    power_pos (by decide) _
  have hlarge := power_spacing_le hs
  rw [power_add] at hlarge ⊢
  exact Nat.mul_le_mul_right _
    ((Nat.le_div_iff_mul_le hpos).mpr hlarge)

/-- A quotient is rounded to nothing just when it is no more than half the
smallest magnitude. -/
theorem units_eq_zero_iff (hden : 0 < den)
    (h : nearest? num den = some x) :
    x.units = 0 ↔ 2 * unitsPerOne * num ≤ den := by
  have hhalf : 2 * unitsPerOne * num = 2 * (num * unitsPerOne) := by
    rw [Nat.mul_assoc, Nat.mul_comm unitsPerOne]
  rw [hhalf]
  rcases Nat.eq_zero_or_pos (spacing (num * unitsPerOne / den)) with
    hs | hs
  · have hunits := units_of_nearest? h
    rw [hs, show power 2 0 = 1 from rfl, Nat.mul_one, Nat.mul_one]
      at hunits
    rw [hunits]
    constructor
    · intro hzero
      have hnot := mt (@lt_divideNearest (num * unitsPerOne) den 0 hden)
      omega
    · intro hsmall
      have hquotient : num * unitsPerOne / den = 0 :=
        Nat.div_eq_of_lt (by omega)
      have hrem : num * unitsPerOne % den = num * unitsPerOne :=
        Nat.mod_eq_of_lt (by omega)
      rcases divideNearest_cases (num * unitsPerOne) den with
        ⟨hround, -⟩ | ⟨-, hmore⟩
      · rw [hround, hquotient]
      · omega
  · -- a quotient with a spacing of its own is far from nothing
    have hpos : 0 < power 2 (52 + spacing (num * unitsPerOne / den)) :=
      power_pos (by decide) _
    have hunits := Nat.lt_of_lt_of_le hpos (power_le_units h hs)
    have hquotient := Nat.lt_of_lt_of_le hpos (power_spacing_le hs)
    have hless : den ≤ num * unitsPerOne := by
      have := (Nat.le_div_iff_mul_le hden).mp hquotient
      omega
    exact iff_of_false (by omega) (by omega)

/-- Where the number one has `steps` steps between neighbours, a quotient
above a whole number is more than half a step above it, while that number
times the denominator is below the limit of the significands. -/
theorem step_lt_twice_rest {count steps : Nat} (hsteps : 0 < steps)
    (hlt : count * den < num) (hfits : count * den < significandLimit)
    (hspaced : power 2 52 * den ≤ num * steps) :
    den < 2 * ((num - count * den) * steps) := by
  rw [significandLimit_eq, show power 2 53 = 9007199254740992 from rfl]
    at hfits
  rw [show power 2 52 = 4503599627370496 from rfl] at hspaced
  obtain ⟨rest, hrest⟩ : ∃ rest, num = count * den + (rest + 1) :=
    ⟨num - count * den - 1, by omega⟩
  rw [show num - count * den = rest + 1 by omega]
  rw [hrest, Nat.add_mul, Nat.add_mul, Nat.one_mul] at hspaced
  rw [Nat.add_mul, Nat.one_mul]
  apply Nat.lt_of_not_ge
  intro hden
  -- so little is left over only next to the limit itself
  have hlast : count * den = 9007199254740991 := by
    rcases Nat.lt_or_ge (count * den) 9007199254740991 with hless | hge
    · have : count * den * steps ≤ 9007199254740990 * steps :=
        Nat.mul_le_mul_right steps (by omega)
      omega
    · omega
  rw [hlast] at hspaced
  -- and there the denominator is even and the number odd
  have heven : den = 2 * steps := by omega
  rw [heven, Nat.mul_left_comm] at hlast
  omega

/-- A quotient above a whole number is rounded to a value above it, while
that number times the denominator is below the limit of the
significands. -/
theorem mul_unitsPerOne_lt {count : Nat} (hden : 0 < den)
    (hlt : count * den < num) (hfits : count * den < significandLimit)
    (hpos : 0 < count) (h : nearest? num den = some x) :
    count * unitsPerOne < x.units := by
  have hone := unitsPerOne_pos
  rcases Nat.lt_or_ge unitExponent (spacing (num * unitsPerOne / den)) with
    hwide | hnarrow
  · -- neighbours are more than one apart, so the value is beyond the limit
    have hless : count < significandLimit :=
      Nat.lt_of_le_of_lt (Nat.le_mul_of_pos_right count hden) hfits
    have hlimit : significandLimit * unitsPerOne
        = power 2 (53 + unitExponent) := by
      rw [significandLimit_eq, power_add, unitsPerOne]
    refine Nat.lt_of_lt_of_le (Nat.mul_lt_mul_of_pos_right hless hone)
      (Nat.le_trans ?_ (power_le_units h (by omega)))
    rw [hlimit]
    exact power_le_power (by decide) (by omega)
  · obtain ⟨steps, hsteps⟩ : ∃ steps, unitsPerOne
        = steps * power 2 (spacing (num * unitsPerOne / den)) :=
      ⟨_, (Nat.div_mul_cancel (power_dvd_power 2 hnarrow)).symm⟩
    have hrest : den < 2 * ((num - count * den) * steps) := by
      rcases Nat.eq_zero_or_pos (spacing (num * unitsPerOne / den)) with
        hs | hs
      · have hlarge : significandLimit ≤ unitsPerOne := by
          rw [significandLimit_eq]
          exact power_le_power (by decide) (by decide)
        rw [hs, show power 2 0 = 1 from rfl, Nat.mul_one] at hsteps
        have hless := Nat.le_mul_of_pos_left den hpos
        have hmore := Nat.le_mul_of_pos_left steps
          (show 0 < num - count * den by omega)
        omega
      · have hstepsPos : 0 < steps := by
          rcases Nat.eq_zero_or_pos steps with rfl | hstepsPos
          · omega
          · exact hstepsPos
        refine step_lt_twice_rest hstepsPos hlt hfits (Nat.le_of_mul_le_mul_right ?_
          (power_pos (show 0 < 2 by decide)
            (spacing (num * unitsPerOne / den))))
        have hspaced := Nat.le_trans (Nat.mul_le_mul_right den
          (power_spacing_le hs)) (Nat.div_mul_le_self _ _)
        rw [power_add, Nat.mul_right_comm] at hspaced
        rw [Nat.mul_assoc num, ← hsteps]
        exact hspaced
    have hunits := units_of_nearest? h
    have hstep : 0 < power 2 (spacing (num * unitsPerOne / den)) :=
      power_pos (by decide) _
    generalize power 2 (spacing (num * unitsPerOne / den)) = step at *
    generalize unitsPerOne = one at *
    subst hsteps
    rw [hunits, ← Nat.mul_assoc]
    refine Nat.mul_lt_mul_of_pos_right
      (lt_divideNearest (Nat.mul_pos hden hstep) ?_) hstep
    obtain ⟨rest, hnum⟩ : ∃ rest, num = count * den + rest :=
      ⟨num - count * den, by omega⟩
    rw [show num - count * den = rest by omega] at hrest
    calc (2 * (count * steps) + 1) * (den * step)
        = 2 * (count * den * (steps * step)) + den * step := by grind
      _ < 2 * (count * den * (steps * step))
          + 2 * (rest * steps) * step :=
        Nat.add_lt_add_left (Nat.mul_lt_mul_of_pos_right hrest hstep) _
      _ = 2 * (num * (steps * step)) := by grind

end Magnitude

-- ================================================================= blocks

/-- The blocks are as many as the ceiling of the rounded quotient. -/
theorem blocks_of_nearest? {shortfall step : Nat} {x : Magnitude}
    (hstep : 0 < step)
    (hx : Magnitude.nearest? shortfall step = some x) :
    blocks shortfall step
      = .ok (((x.units + (unitsPerOne - 1)) / unitsPerOne * step : Nat)
        : Int) := by
  have hsign : (decide ((shortfall : Int) < 0)
      != decide ((step : Int) < 0)) = false := by
    rw [decide_eq_false (by omega), decide_eq_false (by omega)]
    rfl
  have hquotient : Binary64.ofQuotient? shortfall step
      = some (.finite false x) := by
    rw [Binary64.ofQuotient?, Int.natAbs_natCast, Int.natAbs_natCast, hx,
      hsign]
    rfl
  have hrounded : roundedCeiling shortfall step
      = .ok (((x.units + (unitsPerOne - 1)) / unitsPerOne : Nat) : Int) := by
    rw [roundedCeiling, if_neg (by omega), hquotient]
    rfl
  rw [blocks, hrounded, Int.natCast_mul]
  rfl

/-- A quotient without a nearest magnitude gives no number of blocks. -/
theorem blocks_of_nearest?_eq_none {shortfall step : Nat}
    (hstep : 0 < step)
    (hx : Magnitude.nearest? shortfall step = none) :
    blocks shortfall step = .error .quotientBeyondRange := by
  have hquotient : Binary64.ofQuotient? shortfall step = none := by
    rw [Binary64.ofQuotient?, Int.natAbs_natCast, Int.natAbs_natCast, hx]
    rfl
  rw [blocks, roundedCeiling, if_neg (by omega), hquotient]
  rfl

/-- A positive shortfall is covered in as many blocks as the exact quotient
asks for, while they are together below the limit of the significands. -/
theorem blocks_eq_of_lt {shortfall step count : Nat} (hstep : 0 < step)
    (hpos : 0 < shortfall) (hle : shortfall ≤ count * step)
    (hlt : count * step < shortfall + step)
    (hfits : count * step < significandLimit) :
    blocks shortfall step = .ok ((count * step : Nat) : Int) := by
  obtain ⟨x, hx, hceiling⟩ :=
    Magnitude.ceiling_nearest? hstep hpos hle hlt hfits
  rw [blocks_of_nearest? hstep hx, hceiling]

/-- Where the quotient is no more than half the smallest magnitude, no
block is counted. -/
theorem blocks_of_vanishing {shortfall step : Nat} (hstep : 0 < step)
    (hsmall : 2 * unitsPerOne * shortfall ≤ step) :
    blocks shortfall step = .ok ((0 : Nat) : Int) := by
  have hnearest : Magnitude.nearest? shortfall step ≠ none := by
    rw [Ne, Magnitude.nearest?_eq_none_iff]
    rintro ⟨-, hbeyond⟩
    have hone : shortfall ≤ 2 * unitsPerOne * shortfall :=
      Nat.le_mul_of_pos_left _ (Nat.mul_pos (by decide)
        Magnitude.unitsPerOne_pos)
    have htwo : 2 * step ≤ roundingLimit * step :=
      Nat.mul_le_mul_right step
        (Nat.mul_le_mul (show 2 ≤ 2 * significandLimit - 1 by decide)
          (power_pos (show 0 < 2 by decide) 970))
    omega
  obtain ⟨x, hx⟩ := Option.ne_none_iff_exists'.mp hnearest
  have hone := Magnitude.unitsPerOne_pos
  rw [blocks_of_nearest? hstep hx,
    (Magnitude.units_eq_zero_iff hstep hx).mpr hsmall,
    Nat.div_eq_of_lt (by omega), Nat.zero_mul]

/-- Where the quotient is more than that, the blocks that are counted cover
the shortfall, or together they reach the limit of the significands. -/
theorem blocks_covers {shortfall step : Nat} {extent : Int}
    (hstep : 0 < step) (hlarge : step < 2 * unitsPerOne * shortfall)
    (h : blocks shortfall step = .ok extent) :
    ∃ count, extent = ((count * step : Nat) : Int)
      ∧ (shortfall ≤ count * step ∨ significandLimit ≤ count * step) := by
  cases hx : Magnitude.nearest? shortfall step with
  | none =>
      rw [blocks_of_nearest?_eq_none hstep hx] at h
      cases h
  | some x =>
      rw [blocks_of_nearest? hstep hx] at h
      cases h
      refine ⟨_, rfl, ?_⟩
      have hone := Magnitude.unitsPerOne_pos
      have hunits := mt (Magnitude.units_eq_zero_iff hstep hx).mp
        (Nat.not_le.mpr hlarge)
      -- the ceiling of what is above nothing is at least one
      have hdiv := Nat.div_add_mod (x.units + (unitsPerOne - 1)) unitsPerOne
      have hmod := Nat.mod_lt (x.units + (unitsPerOne - 1)) hone
      rw [Nat.mul_comm] at hdiv
      have hpos : 0 < (x.units + (unitsPerOne - 1)) / unitsPerOne :=
        Nat.div_pos (by omega) hone
      have habove : x.units ≤ (x.units + (unitsPerOne - 1)) / unitsPerOne
          * unitsPerOne := by
        omega
      generalize (x.units + (unitsPerOne - 1)) / unitsPerOne = count at *
      rcases Nat.lt_or_ge (count * step) shortfall with hless | hge
      · refine .inr (Nat.le_of_not_lt fun hfits => ?_)
        have := Magnitude.mul_unitsPerOne_lt hstep hless hfits hpos hx
        omega
      · exact .inl hge

end TildeFormat
