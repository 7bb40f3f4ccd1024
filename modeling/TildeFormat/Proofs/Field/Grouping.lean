/-
Integer fields: what is written for a number, and that it can be read back.
The digits are cut into groups from the left, the first one taking what
whole groups leave, and that comes to the same as counting from the right
because what is left behind the first group is a multiple of the group
size. Where whole groups leave nothing the first group is a whole one, so
it is never empty.

Sign, separators and padding stand around the digits and change none of
them. Only padding that cannot be counted has no text.
-/
import TildeFormat.Proofs.Field.Fixed

namespace TildeFormat

-- ============================================================ grouping

/-- Digits in a first group and others: the first has at least one digit
and no more than `interval`, every other exactly `interval`. -/
structure Grouping (interval : Nat) (digits first : Text)
    (rest : List Text) : Prop where
  joined : (first :: rest).flatten = digits
  first_pos : 1 ≤ first.length
  first_le : first.length ≤ interval
  rest_length : ∀ group ∈ rest, group.length = interval

theorem flatten_chunks (extra : Nat) (t : Text) :
    (chunks extra t).flatten = t := by
  fun_induction chunks extra t with
  | case1 => rfl
  | case2 c t ih =>
      rw [List.flatten_cons, ih, List.cons_append, List.take_append_drop]

/-- A text of whole pieces is cut into whole pieces. -/
theorem length_of_mem_chunks {extra : Nat} {t : Text}
    (h : (extra + 1) ∣ t.length) :
    ∀ piece ∈ chunks extra t, piece.length = extra + 1 := by
  fun_induction chunks extra t with
  | case1 =>
      intro piece hpiece
      cases hpiece
  | case2 c t ih =>
      rw [List.length_cons] at h
      have hroom : extra ≤ t.length := by
        have := Nat.le_of_dvd (Nat.succ_pos _) h
        omega
      have hrest : (extra + 1) ∣ (t.drop extra).length := by
        have hless : (t.drop extra).length
            = t.length + 1 - (extra + 1) := by
          rw [List.length_drop]
          omega
        rw [hless]
        exact Nat.dvd_sub h (Nat.dvd_refl _)
      intro piece hpiece
      rcases List.mem_cons.mp hpiece with rfl | hpiece
      · rw [List.length_cons, List.length_take]
        omega
      · exact ih hrest piece hpiece

/-- Digits have groups, and counted from the right all but the first are
whole. -/
theorem groups_eq_ok {interval : Nat} (hinterval : 1 ≤ interval)
    {digits : Text} (hdigits : digits ≠ []) :
    ∃ first rest, groups digits interval = .ok (first :: rest)
      ∧ Grouping interval digits first rest := by
  -- the first group: what whole ones leave, or a whole one
  let head := if digits.length % interval = 0 then interval
    else digits.length % interval
  have hpos := List.length_pos_iff.mpr hdigits
  have hmod := Nat.mod_lt digits.length hinterval
  have hhead : 1 ≤ head ∧ head ≤ interval ∧ head ≤ digits.length
      ∧ interval ∣ digits.length - head := by
    by_cases hwhole : digits.length % interval = 0
    · have hdvd := Nat.dvd_of_mod_eq_zero hwhole
      simp only [head, if_pos hwhole]
      exact ⟨hinterval, Nat.le_refl _, Nat.le_of_dvd hpos hdvd,
        Nat.dvd_sub hdvd (Nat.dvd_refl _)⟩
    · simp only [head, if_neg hwhole]
      exact ⟨by omega, by omega, Nat.mod_le _ _, Nat.dvd_sub_mod _⟩
  obtain ⟨hone, hle, hfits, hdvd⟩ := hhead
  have hsize : interval - 1 + 1 = interval := by omega
  refine ⟨digits.take head, chunks (interval - 1) (digits.drop head), ?_, ?_⟩
  · unfold groups
    rw [if_neg (by omega), if_pos (by omega), Int.toNat_natCast]
  · exact {
      joined := by
        rw [List.flatten_cons, flatten_chunks, List.take_append_drop]
      first_pos := by
        rw [List.length_take]
        omega
      first_le := by
        rw [List.length_take]
        omega
      rest_length := by
        intro group hgroup
        rw [length_of_mem_chunks (by rwa [hsize, List.length_drop]) group
          hgroup, hsize] }

namespace DecimalField

-- ================================================================ sign

/-- The sign of an integer field is that of the number. -/
theorem isSign_signText (field : DecimalField) (number : Int) :
    FixedField.IsSign (number < 0) (field.sign = true)
      (field.signText number) := by
  unfold signText
  split
  · next hbelow =>
    exact ⟨by simp, by simp [hbelow], by simp [hbelow]⟩
  · next hbelow =>
    split
    · next hasked =>
      exact ⟨by simp, by simp [hbelow], by simp [hbelow, hasked]⟩
    · next hasked =>
      exact ⟨by simp, by simp [hbelow], by simp [hasked]⟩

/-- A sign and the size of a number are all of it. -/
theorem number_of_isSign {number : Int} {asked : Prop} {sign : Text}
    (h : FixedField.IsSign (number < 0) asked sign) :
    number = if sign = [.scalar '-'] then -(number.natAbs : Int)
      else number.natAbs := by
  split
  · next hminus =>
    have := h.minus.mp hminus
    omega
  · next hplain =>
    have := mt h.minus.mpr hplain
    omega

-- ================================================================ body

/-- What is written of the digits: all of them, or their groups with a
separator between neighbours. -/
inductive IsBody (interval : Nat) (comma : Character) (digits : Text) :
    Bool → Text → Prop
  | plain : IsBody interval comma digits false digits
  | grouped (first : Text) (rest : List Text)
      (h : Grouping interval digits first rest) :
      IsBody interval comma digits true
        (Text.join [comma] (first :: rest))

theorem body_eq {field : DecimalField} {interval : Nat} {comma : Character}
    (hcomma : field.commachar = [comma])
    (hinterval : field.commaInterval = (interval : Int))
    (hpos : 1 ≤ interval) (number : Int) :
    ∃ body, field.body number = .ok body
      ∧ IsBody interval comma (Numeral.digits number.natAbs) field.commas
        body := by
  unfold body
  cases field.commas with
  | false => exact ⟨_, rfl, .plain⟩
  | true =>
      obtain ⟨first, rest, hgroups, hgrouping⟩ :=
        groups_eq_ok hpos (Numeral.digits_ne_nil number.natAbs)
      refine ⟨Text.join [comma] (first :: rest), ?_,
        .grouped first rest hgrouping⟩
      simp only [if_true, grouped, hcomma, hinterval, hgroups]
      rfl

-- =============================================================== field

/-- A text aligned to the right of a field: behind its padding where that
can be counted. -/
theorem draw_of_body {field : DecimalField} {mincol : Nat} {pad : Character}
    (hmincol : field.mincol = (mincol : Int))
    (hpad : field.padchar = [pad]) {number : Int} {body : Text}
    (hbody : field.body number = .ok body) :
    field.draw number
      = if (mincol : Int) - (field.signText number ++ body).length
            < countLimit then
          .ok (List.replicate
              (mincol - (field.signText number ++ body).length) pad
            ++ (field.signText number ++ body))
        else .error .countBeyondRange := by
  have hlimit : 0 < countLimit := by decide
  unfold draw
  rw [hbody]
  show (if ((field.signText number ++ body).length : Int) < field.mincol
    then repeated field.padchar _ >>= _ else _) = _
  generalize field.signText number ++ body = text
  rw [hmincol, hpad]
  by_cases hless : (text.length : Int) < mincol
  · rw [if_pos hless]
    by_cases hcount : (mincol : Int) - text.length < countLimit
    · rw [if_pos hcount, repeated_singleton pad (by omega) hcount,
        show ((mincol : Int) - text.length).toNat = mincol - text.length by
          omega]
      rfl
    · rw [if_neg hcount, repeated, if_pos (.inr (Int.not_lt.mp hcount))]
      rfl
  · rw [if_neg hless, if_pos (by omega),
      show mincol - text.length = 0 by omega]
    rfl

/-- An integer is written as a sign and its digits, in groups where they
are asked for, behind as much padding as the field is wider. Sign and
digits denote the number, so it is read back from them. Padding that cannot
be counted has no text. -/
theorem draw_numeral (number : Int) (mincol : Nat) (pad comma : Character)
    {interval : Nat} (hinterval : 1 ≤ interval) (commas signed : Bool) :
    ∃ sign digits body,
      FixedField.IsSign (number < 0) (signed = true) sign
        ∧ Numeral.IsNumeral number.natAbs digits
        ∧ IsBody interval comma digits commas body
        ∧ draw ⟨mincol, [pad], [comma], interval, commas, signed⟩ number
          = (if (mincol : Int) - (sign ++ body).length < countLimit then
              .ok (List.replicate (mincol - (sign ++ body).length) pad
                ++ (sign ++ body))
            else .error .countBeyondRange)
        ∧ number = if sign = [.scalar '-'] then -(Numeral.value digits : Int)
          else Numeral.value digits := by
  obtain ⟨body, hbody, hgroups⟩ := @body_eq
    ⟨mincol, [pad], [comma], interval, commas, signed⟩ interval comma rfl
    rfl hinterval number
  have hsign := isSign_signText
    ⟨mincol, [pad], [comma], interval, commas, signed⟩ number
  have hnumeral := Numeral.isNumeral_digits number.natAbs
  refine ⟨_, _, body, hsign, hnumeral, hgroups,
    draw_of_body rfl rfl hbody, ?_⟩
  rw [hnumeral.value]
  exact number_of_isSign hsign

/-- Four thousand two hundred below zero, in groups of three. -/
theorem draw_numeral_grouped :
    1 ≤ 3
      ∧ (draw ⟨(10 : Nat), ['_'], [','], (3 : Nat), true, false⟩
          (-4200)).toOption = some (Text.ofString "____-4,200")
      ∧ ∃ sign digits body,
        FixedField.IsSign ((-4200 : Int) < 0) (false = true) sign
          ∧ Numeral.IsNumeral (-4200 : Int).natAbs digits
          ∧ IsBody 3 ',' digits true body
          ∧ draw ⟨(10 : Nat), ['_'], [','], (3 : Nat), true, false⟩ (-4200)
            = (if ((10 : Nat) : Int) - (sign ++ body).length
                  < countLimit then
                .ok (List.replicate (10 - (sign ++ body).length) (.scalar '_')
                  ++ (sign ++ body))
              else .error .countBeyondRange)
          ∧ (-4200 : Int) = if sign = [.scalar '-'] then
              -(Numeral.value digits : Int) else Numeral.value digits :=
  ⟨by decide, by decide +kernel,
    draw_numeral (-4200) 10 '_' ',' (by decide) true false⟩

/-- The limit of what can be counted is reached: a field of two to the 63
characters and one more has no text for the number one. -/
theorem draw_countLimit :
    ¬∃ text, draw { mincol := 0x8000000000000001 } 1 = .ok text := by
  have hone : body { mincol := 0x8000000000000001 } 1 = .ok ['1'] :=
    congrArg Except.ok (Numeral.digits_of_lt (by decide))
  have hdraw : draw { mincol := 0x8000000000000001 } 1
      = .error .countBeyondRange := by
    rw [draw, hone]
    rfl
  rintro ⟨text, htext⟩
  rw [hdraw] at htext
  cases htext

end DecimalField

end TildeFormat
