/-
Fixed-point fields: what is written for a finite number. The numeral is the
one the exact value is rounded to, behind a sign, and a width decides
between three forms of it: the numeral behind padding, the numeral without
the zero before its point, and a run of the overflow character.

The short form is the one to watch. It is tried just when the field is one
character too narrow, so it always fits exactly; and it is a numeral as
long as digits follow the point. Without any places it is a point alone,
which no reader takes for a number.
-/
import TildeFormat.Proofs.Decimal.Rounding
import TildeFormat.Proofs.Decimal.Spelling

namespace TildeFormat

namespace FixedField

-- ================================================================ forms

/-- The sign in front of a number: a minus just below zero, and a plus just
where one is asked for and the number is not below zero. -/
structure IsSign (below asked : Prop) (sign : Text) : Prop where
  one : sign = [] ∨ sign = [.scalar '-'] ∨ sign = [.scalar '+']
  minus : sign = [.scalar '-'] ↔ below
  plus : sign = [.scalar '+'] ↔ asked ∧ ¬below

/-- The numeral a field shows: without its whole part when that is a zero
and one character is to be saved. -/
def shown (width : Nat) (sign whole fraction : Text) : Text :=
  if whole = [.scalar '0']
      ∧ (sign ++ (whole ++ .scalar '.' :: fraction)).length = width + 1 then
    '.' :: fraction
  else whole ++ .scalar '.' :: fraction

/-- A text in a field: behind its padding when it fits, and replaced by the
overflow character, when there is one, when it does not. -/
def fitted (width : Nat) (pad : Character) (overflow : Option Character)
    (text : Text) : Text :=
  if text.length ≤ width then
    List.replicate (width - text.length) pad ++ text
  else
    match overflow with
    | some c => List.replicate width c
    | none => text

theorem fitted_of_le {width : Nat} {text : Text} (pad : Character)
    (overflow : Option Character) (h : text.length ≤ width) :
    fitted width pad overflow text
      = List.replicate (width - text.length) pad ++ text :=
  if_pos h

/-- The first number of places beyond what a numeral can have. -/
def placesLimit : Nat := 0x80000000

variable {field : FixedField}

-- ================================================================= sign

theorem isSign_signText (field : FixedField) (negative : Bool)
    (x : Magnitude) :
    IsSign (negative = true ∧ 0 < x.units) (field.sign = true)
      (field.signText negative x) := by
  have hbelow : (negative && x.units != 0) = true
      ↔ negative = true ∧ 0 < x.units := by
    rw [Bool.and_eq_true, bne_iff_ne, Nat.pos_iff_ne_zero]
  unfold signText
  rw [← hbelow]
  split
  · next hminus =>
    exact ⟨by simp, by simp [hminus], by simp [hminus]⟩
  · next hminus =>
    split
    · next hasked =>
      exact ⟨by simp, by simp [hminus], by simp [hminus, hasked]⟩
    · next hasked =>
      exact ⟨by simp, by simp [hminus], by simp [hasked]⟩

theorem IsSign.length_le {below asked : Prop} {sign : Text}
    (h : IsSign below asked sign) : sign.length ≤ 1 := by
  rcases h.one with rfl | rfl | rfl <;> decide

-- ================================================================= body

/-- Why a number of places beyond the limit has no numeral. -/
def placesFault (places : Nat) : FixedFault :=
  if 0x8000000000000000 ≤ places then .placesBeyondRange
  else .placesBeyondLimit

/-- A number of places below the limit has a numeral, and from the limit on
there is none. -/
theorem body_of_places {places : Nat}
    (hdigits : field.digits = some (places : Int)) (x : Magnitude) :
    field.body x
      = if places < placesLimit then .ok (x.fixedText places)
        else .error (placesFault places) := by
  unfold body placesLimit placesFault
  rw [hdigits]
  simp only
  rw [if_neg (by omega)]
  by_cases hrange : 0x8000000000000000 ≤ places
  · rw [if_pos (by omega), if_neg (by omega), if_pos hrange]
  rw [if_neg (by omega), if_neg hrange]
  by_cases hlimit : 0x80000000 ≤ places
  · rw [if_pos (by omega), if_neg (by omega)]
  · rw [if_neg (by omega), if_pos (by omega), Int.toNat_natCast]

/-- Only a zero before the point can be left out. -/
theorem withoutZero?_point {whole fraction : Text}
    (hwhole : ∀ c ∈ whole, c.isDigit = true) :
    withoutZero? (whole ++ .scalar '.' :: fraction)
      = if whole = [.scalar '0'] then some (.scalar '.' :: fraction)
        else none := by
  unfold withoutZero?
  split
  · next rest h =>
    match whole, hwhole, h with
    | [], _, h => exact absurd (List.cons.inj h).1 (by decide)
    | [c], _, h =>
        cases h
        rfl
    | c :: d :: whole, hwhole, h =>
        have hpoint : d = '.' := (List.cons.inj (List.cons.inj h).2).1
        have hdigit := hwhole d (by simp)
        rw [hpoint] at hdigit
        exact absurd hdigit (by decide)
  · next hother =>
    rw [if_neg]
    rintro rfl
    exact hother fraction rfl

-- ================================================================ width

/-- Padding that can be counted is put in front. -/
theorem padTo_eq {pad : Character} (hpad : field.padchar = [pad])
    (width : Nat) (text : Text) :
    fit.padTo field width text
      = if (width : Int) - text.length < countLimit then
          .ok (List.replicate (width - text.length) pad ++ text)
        else .error .countBeyondRange := by
  unfold fit.padTo
  by_cases hless : (text.length : Int) < width
  · rw [if_pos hless, hpad]
    by_cases hcount : (width : Int) - text.length < countLimit
    · rw [if_pos hcount, repeated_singleton pad (by omega) hcount,
        show ((width : Int) - text.length).toNat = width - text.length by
          omega]
      rfl
    · rw [if_neg hcount, repeated, if_pos (.inr (Int.not_lt.mp hcount))]
      rfl
  · have hlimit : 0 < countLimit := by decide
    rw [if_neg hless, if_pos (by omega),
      show width - text.length = 0 by omega]
    rfl

/-- A text too wide for the field. -/
theorem overflow_eq {pad : Character} {overflow : Option Character}
    {width : Nat}
    {text : Text} (hpad : field.padchar = [pad])
    (hoverflow : field.overflowchar = overflow.map fun c => [c])
    (hwide : width < text.length) (hcount : (text.length : Int) < countLimit) :
    fit.overflow field width text
      = .ok (fitted width pad overflow text) := by
  unfold fit.overflow fitted
  rw [hoverflow, if_neg (by omega)]
  cases overflow with
  | none =>
      have hnone : width - text.length = 0 := by omega
      show fit.padTo field width text = .ok text
      rw [padTo_eq hpad, if_pos (by omega), hnone]
      rfl
  | some c => exact repeated_singleton c (Int.natCast_nonneg _) (by omega)

/-- The width decides which form of the numeral is shown. -/
theorem fit_eq {pad : Character} {overflow : Option Character} {width : Nat}
    {sign whole fraction : Text} (hwidth : field.width = some (width : Int))
    (hpad : field.padchar = [pad])
    (hoverflow : field.overflowchar = overflow.map fun c => [c])
    (hwhole : ∀ c ∈ whole, c.isDigit = true)
    (hcount : ((sign ++ (whole ++ .scalar '.' :: fraction)).length : Int)
      < countLimit) :
    field.fit sign (whole ++ .scalar '.' :: fraction)
      = if (width : Int) - (sign ++ shown width sign whole fraction).length
            < countLimit then
          .ok (fitted width pad overflow
            (sign ++ shown width sign whole fraction))
        else .error .countBeyondRange := by
  have hlimit : 0 < countLimit := by decide
  unfold fit
  simp only [hwidth, withoutZero?_point hwhole]
  by_cases hfits : (sign ++ (whole ++ .scalar '.' :: fraction)).length ≤ width
  · -- the numeral in full, behind its padding
    have hshown : shown width sign whole fraction
        = whole ++ .scalar '.' :: fraction := if_neg (by omega)
    rw [if_pos (by omega), hshown, fitted_of_le _ _ hfits, padTo_eq hpad]
  rw [if_neg (by omega)]
  by_cases hshort : whole = [.scalar '0']
      ∧ (sign ++ (whole ++ .scalar '.' :: fraction)).length = width + 1
  · -- the zero is the one character too many
    have hshown : shown width sign whole fraction = .scalar '.' :: fraction :=
      if_pos hshort
    obtain ⟨rfl, hlength⟩ := hshort
    have hexact : (sign ++ .scalar '.' :: fraction).length = width := by
      simp only [List.length_append, List.length_cons, List.length_nil]
        at hlength ⊢
      omega
    rw [if_pos rfl, hshown, fitted_of_le _ _ (Nat.le_of_eq hexact)]
    simp only
    rw [if_pos (by omega), padTo_eq hpad]
  · -- no form of the numeral fits
    have hshown : shown width sign whole fraction
        = whole ++ .scalar '.' :: fraction := if_neg hshort
    rw [hshown, if_pos (show (width : Int) - _ < countLimit by omega),
      ← overflow_eq hpad hoverflow (Nat.not_le.mp hfits) hcount]
    by_cases hzero : whole = [.scalar '0']
    · rw [if_pos hzero]
      simp only
      rw [if_neg fun hone => hshort ⟨hzero, by omega⟩]
    · rw [if_neg hzero]

-- ======================================================= what is shown

/-- What is shown of a rounded numeral is read as the rounded value, unless
all of it but the point was the zero that is left out. -/
theorem size?_shown {x : Magnitude} {places : Nat} {whole fraction : Text}
    (h : x.RoundedTo places whole fraction) (width : Nat) (sign : Text) :
    Decimal.size? (shown width sign whole fraction)
      = if places = 0 ∧ whole = [.scalar '0']
          ∧ (sign ++ (whole ++ .scalar '.' :: fraction)).length = width + 1
        then none
        else some ⟨Numeral.value (whole ++ fraction),
          -(places : Int)⟩ := by
  unfold shown
  split
  · next hshort =>
    obtain ⟨rfl, hwide⟩ := hshort
    have hread := @Decimal.size?_point [] fraction
      (List.forall_mem_nil _) h.fraction_digits
    have hvalue : Numeral.value ([.scalar '0'] ++ fraction)
        = Numeral.value fraction := by
      rw [Numeral.value_append, show Numeral.value ['0'] = 0 from rfl,
        Nat.zero_mul, Nat.zero_add]
    have hfraction : fraction = [] ↔ places = 0 := by
      rw [← h.fraction_length, List.length_eq_zero_iff]
    rw [List.nil_append, List.nil_append] at hread
    rw [hread, hvalue]
    by_cases hnone : places = 0
    · rw [if_pos ⟨rfl, hfraction.mpr hnone⟩, if_pos ⟨hnone, rfl, hwide⟩]
    · rw [if_neg fun h => hnone (hfraction.mp h.2),
        if_neg fun h => hnone h.1, h.fraction_length]
  · next hfull =>
    rw [Decimal.size?_point h.whole_digits h.fraction_digits,
      if_neg fun hnil => h.whole_ne_nil hnil.1,
      if_neg fun hshort => hfull hshort.2, h.fraction_length]

-- ================================================================= draw

variable {scale : Int} {number : Binary64} {negative : Bool} {x : Magnitude}

/-- A finite number has a sign and a numeral to be fitted to the width, as
long as the places are below the limit. Beyond that it has no text. -/
theorem draw_of_scaled (field : FixedField) (number : Binary64)
    {places : Nat} (hdigits : field.digits = some (places : Int))
    (hscaled : field.scaled number = .ok (.finite negative x)) :
    (places < placesLimit → ∃ sign whole fraction,
        field.draw number = field.fit sign (whole ++ .scalar '.' :: fraction)
          ∧ IsSign (negative = true ∧ 0 < x.units) (field.sign = true) sign
          ∧ x.RoundedTo places whole fraction ∧ whole.length ≤ 1024)
      ∧ (placesLimit ≤ places →
        field.draw number = .error (.fixed (placesFault places))) := by
  have hbody := body_of_places hdigits x
  unfold draw
  simp only [hdigits, hscaled, Option.isNone_some, Bool.and_false,
    Bool.false_eq_true, if_false, hbody]
  refine ⟨fun hplaces => ?_, fun hplaces => ?_⟩
  · obtain ⟨whole, fraction, htext, hrounded, hlength⟩ :=
      x.fixedText_rounded places
    rw [if_pos hplaces, htext]
    exact ⟨field.signText negative x, whole, fraction, rfl,
      isSign_signText field negative x, hrounded, hlength⟩
  · rw [if_neg (Nat.not_lt.mpr hplaces)]

/-- Without a width, a finite number is written with the places asked for,
as long as they are below the limit: a sign, and the numeral its exact
value is rounded to. Beyond that it has no text. -/
theorem draw_rounded
    (hscaled : scaled { scale := scale } number = .ok (.finite negative x))
    (places : Nat) (signed : Bool) :
    (places < placesLimit → ∃ sign whole fraction,
        draw { digits := some places, scale := scale, sign := signed } number
            = .ok (sign ++ (whole ++ .scalar '.' :: fraction))
          ∧ IsSign (negative = true ∧ 0 < x.units) (signed = true) sign
          ∧ x.RoundedTo places whole fraction)
      ∧ (placesLimit ≤ places →
        draw { digits := some places, scale := scale, sign := signed } number
            = .error (.fixed (placesFault places))) := by
  obtain ⟨hbelow, hbeyond⟩ := draw_of_scaled
    { digits := some places, scale := scale, sign := signed } number rfl
    hscaled
  refine ⟨fun hplaces => ?_, hbeyond⟩
  obtain ⟨sign, whole, fraction, hdraw, hsign, hrounded, -⟩ :=
    hbelow hplaces
  exact ⟨sign, whole, fraction, hdraw, hsign, hrounded⟩

/-- Nine and a half. -/
def nineAndHalf : Magnitude :=
  .ofParts 0x13000000000000 1025 (by decide) (by decide)

/-- A tie goes to the even digit, and the carry lengthens the whole part:
0.95 times ten is exactly nine and a half. -/
theorem draw_rounded_tieWithCarry :
    scaled { scale := 1 } (.ofBits 0x3FEE666666666666)
        = .ok (.finite false nineAndHalf)
      ∧ 0 < placesLimit
      ∧ (draw { digits := some (0 : Nat), scale := 1, sign := true }
          (.ofBits 0x3FEE666666666666)).toOption = some (Text.ofString "+10.")
      ∧ ∃ sign whole fraction,
        draw { digits := some (0 : Nat), scale := 1, sign := true }
            (.ofBits 0x3FEE666666666666)
            = .ok (sign ++ (whole ++ .scalar '.' :: fraction))
          ∧ IsSign (false = true ∧ 0 < nineAndHalf.units) (true = true) sign
          ∧ nineAndHalf.RoundedTo 0 whole fraction := by
  have hten : Binary64.tenTo? 1 = some (.finite false
      (.ofParts 0x14000000000000 1025 (by decide) (by decide))) := by
    decide +kernel
  have hproduct : Binary64.mul (.ofBits 0x3FEE666666666666) (.finite false
        (.ofParts 0x14000000000000 1025 (by decide) (by decide)))
      = .finite false nineAndHalf := by
    decide +kernel
  have hscaled : scaled { scale := 1 } (.ofBits 0x3FEE666666666666)
      = .ok (.finite false nineAndHalf) := by
    rw [scaled, if_neg (by decide), hten]
    exact congrArg Except.ok hproduct
  exact ⟨hscaled, by decide, by decide +kernel,
    (draw_rounded hscaled 0 true).1 (by decide)⟩

/-- The limit is reached: two to the 31 places are too many for the number
one, which is finite. -/
theorem draw_placesLimit :
    scaled { scale := 0 } (.ofBits 0x3FF0000000000000)
        = .ok (.finite false
          (.ofParts 0x10000000000000 1022 (by decide) (by decide)))
      ∧ ¬∃ text, draw { digits := some (0x80000000 : Nat) }
        (.ofBits 0x3FF0000000000000) = .ok text := by
  have hdraw : draw { digits := some (0x80000000 : Nat) }
      (.ofBits 0x3FF0000000000000) = .error (.fixed .placesBeyondLimit) :=
    rfl
  refine ⟨rfl, ?_⟩
  rintro ⟨text, htext⟩
  rw [hdraw] at htext
  cases htext

/-- In a field of a width a finite number is fitted, as long as the places
are below the limit: the numeral in full where there is room, or without
the zero before its point where one character is to be saved, behind
padding that is counted; else the overflow character or, without one, the
numeral in full. What is shown is a numeral of the rounded value, unless
all of it was that zero. -/
theorem draw_fitted
    (hscaled : scaled { scale := scale } number = .ok (.finite negative x))
    (places width : Nat) (overflow : Option Character) (pad : Character)
    (signed : Bool) :
    (places < placesLimit → ∃ sign whole fraction,
        IsSign (negative = true ∧ 0 < x.units) (signed = true) sign
          ∧ x.RoundedTo places whole fraction
          ∧ draw ⟨some width, some places, scale, overflow.map fun c => [c],
                [pad], signed⟩ number
              = (if (width : Int)
                    - (sign ++ shown width sign whole fraction).length
                    < countLimit then
                  .ok (fitted width pad overflow
                    (sign ++ shown width sign whole fraction))
                else .error .countBeyondRange)
          ∧ Decimal.size? (shown width sign whole fraction)
            = if places = 0 ∧ whole = [.scalar '0']
                ∧ (sign ++ (whole ++ .scalar '.' :: fraction)).length
                  = width + 1 then none
              else some ⟨Numeral.value (whole ++ fraction),
                -(places : Int)⟩)
      ∧ (placesLimit ≤ places →
        draw ⟨some width, some places, scale, overflow.map fun c => [c],
              [pad], signed⟩ number
            = .error (.fixed (placesFault places))) := by
  obtain ⟨hbelow, hbeyond⟩ := draw_of_scaled ⟨some width, some places,
    scale, overflow.map fun c => [c], [pad], signed⟩ number rfl hscaled
  refine ⟨fun hplaces => ?_, hbeyond⟩
  obtain ⟨sign, whole, fraction, hdraw, hsign, hrounded, hlength⟩ :=
    hbelow hplaces
  refine ⟨sign, whole, fraction, hsign, hrounded, ?_,
    size?_shown hrounded width sign⟩
  rw [hdraw]
  refine fit_eq rfl rfl rfl hrounded.whole_digits ?_
  have := hsign.length_le
  have := hrounded.fraction_length
  rw [List.length_append, List.length_append, List.length_cons]
  unfold placesLimit at hplaces
  unfold countLimit
  omega

/-- One quarter. -/
def quarter : Magnitude :=
  .ofParts 0x10000000000000 1020 (by decide) (by decide)

/-- One character is not enough for a quarter without places, but with the
zero left out the point fits. -/
theorem draw_fitted_pointAlone :
    scaled { scale := 0 } (.ofBits 0x3FD0000000000000)
        = .ok (.finite false quarter)
      ∧ 0 < placesLimit
      ∧ (draw ⟨some (1 : Nat), some (0 : Nat), 0, none, [' '], false⟩
          (.ofBits 0x3FD0000000000000)).toOption = some [.scalar '.']
      ∧ Decimal.size? ['.'] = none
      ∧ ∃ sign whole fraction,
        IsSign (false = true ∧ 0 < quarter.units) (false = true) sign
          ∧ quarter.RoundedTo 0 whole fraction
          ∧ draw ⟨some (1 : Nat), some (0 : Nat), 0, none, [' '], false⟩
              (.ofBits 0x3FD0000000000000)
            = (if ((1 : Nat) : Int) - (sign
                  ++ shown 1 sign whole fraction).length < countLimit then
                .ok (fitted 1 ' ' none
                  (sign ++ shown 1 sign whole fraction))
              else .error .countBeyondRange)
          ∧ Decimal.size? (shown 1 sign whole fraction)
            = if 0 = 0 ∧ whole = [.scalar '0']
                ∧ (sign ++ (whole ++ .scalar '.' :: fraction)).length
                  = 1 + 1 then
              none
            else some ⟨Numeral.value (whole ++ fraction),
              -((0 : Nat) : Int)⟩ :=
  ⟨rfl, by decide, by decide +kernel, by decide +kernel,
    (draw_fitted rfl 0 1 none ' ' false).1 (by decide)⟩

end FixedField

end TildeFormat
