/-
The two writings of a decimal number are read back. With an exponent the
number comes back as it was; with the point among the digits it does so
too, but for the zeros that fill the way to the point and the one behind
it, which are then digits of the number like all others.
-/
import TildeFormat.Decimal.Spelling
import TildeFormat.Proofs.Numeral
import TildeFormat.Proofs.Text.Run

namespace TildeFormat

namespace Decimal

-- ============================================================== reading

/-- What is behind the digits of a number: nothing, or a mark and an
exponent. -/
def tailExponent? : Text → Option Int
  | [] => some 0
  | mark :: digits => if mark.toLower == 'e' then exponent? digits else none

/-- Digits around a point, and what is behind them. -/
theorem size?_point_append {whole fraction tail : Text}
    (hwhole : ∀ c ∈ whole, c.isDigit = true)
    (hfraction : ∀ c ∈ fraction, c.isDigit = true)
    (htail : Stops Character.isDigit tail) :
    size? (whole ++ .scalar '.' :: (fraction ++ tail))
      = if whole = [] ∧ fraction = [] then none
        else (tailExponent? tail).map fun e =>
          ⟨Numeral.value (whole ++ fraction), e - fraction.length⟩ := by
  have hpoint : Stops Character.isDigit ('.' :: (fraction ++ tail)) :=
    stops_cons (by decide) _
  unfold size? tailExponent?
  simp only [takeWhile_append_stops hwhole hpoint,
    dropWhile_append_stops hwhole hpoint,
    takeWhile_append_stops hfraction htail,
    dropWhile_append_stops hfraction htail, Bool.and_eq_true,
    List.isEmpty_iff]
  rfl

/-- Digits around a point are read as what they denote, while there is one
digit at least. -/
theorem size?_point {whole fraction : Text}
    (hwhole : ∀ c ∈ whole, c.isDigit = true)
    (hfraction : ∀ c ∈ fraction, c.isDigit = true) :
    size? (whole ++ .scalar '.' :: fraction)
      = if whole = [] ∧ fraction = [] then none
        else some ⟨Numeral.value (whole ++ fraction),
          -(fraction.length : Int)⟩ := by
  have h := size?_point_append hwhole hfraction (stops_nil Character.isDigit)
  rw [List.append_nil] at h
  rw [h, tailExponent?, Option.map_some, Int.zero_sub]

/-- Digits without a point, and an exponent. -/
theorem size?_mark {whole digits : Text} (hnil : whole ≠ [])
    (hwhole : ∀ c ∈ whole, c.isDigit = true) :
    size? (whole ++ .scalar 'e' :: digits)
      = (exponent? digits).map fun e => ⟨Numeral.value whole, e⟩ := by
  have hmark : Stops Character.isDigit ('e' :: digits) :=
    stops_cons (by decide) _
  have hpresent : whole.isEmpty = false := by
    rw [List.isEmpty_eq_false_iff]
    exact hnil
  unfold size?
  simp only [takeWhile_append_stops hwhole hmark,
    dropWhile_append_stops hwhole hmark, hpresent, Bool.false_and,
    Bool.false_eq_true, if_false]
  show (exponent? digits).map
    (fun (e : Int) => Scientific.mk (Numeral.value (whole ++ [])) (e - 0)) = _
  simp only [List.append_nil, Int.sub_zero]

/-- An exponent that is written with its sign is read back. -/
theorem exponent?_filled (width : Nat) (e : Int) :
    exponent? ((if e < 0 then '-' else '+')
      :: Numeral.filled width e.natAbs) = some e := by
  have hread : exponent?.natural? (Numeral.filled width e.natAbs)
      = some e.natAbs := by
    unfold exponent?.natural?
    rw [if_pos, Numeral.value_filled]
    rw [Bool.and_eq_true, List.all_eq_true]
    refine ⟨?_, fun c => Numeral.isDigit_of_mem_filled⟩
    have := Numeral.digits_ne_nil e.natAbs
    simp [Numeral.filled, this]
  by_cases hbelow : e < 0
  · rw [if_pos hbelow, exponent?, hread]
    show some (-(e.natAbs : Int)) = some e
    rw [Int.ofNat_natAbs_of_nonpos (by omega), Int.neg_neg]
  · rw [if_neg hbelow, exponent?, hread]
    show some (e.natAbs : Int) = some e
    rw [Int.natAbs_of_nonneg (by omega)]

end Decimal

namespace Scientific

variable {x : Scientific}

-- ======================================================= with an exponent

/-- What is written with an exponent is read back. -/
theorem size?_exponential (x : Scientific) :
    Decimal.size? x.exponential = some x := by
  have hdigit := fun c => @Numeral.isDigit_of_mem_digits x.coefficient c
  have hnil := Numeral.digits_ne_nil x.coefficient
  have hvalue := Numeral.value_digits x.coefficient
  unfold exponential point
  generalize Numeral.digits x.coefficient = ds at *
  have hread := Decimal.exponent?_filled 2 ((ds.length : Int) + x.exponent - 1)
  have hback (e : Int) (he : e = x.exponent) :
      some (Scientific.mk (Numeral.value ds) e) = some x := by
    rw [hvalue, he]
  rcases ds with _ | ⟨d, _ | ⟨c, rest⟩⟩
  · exact absurd rfl hnil
  · show Decimal.size? ([d] ++ .scalar 'e' :: _) = _
    rw [Decimal.size?_mark hnil hdigit, hread, Option.map_some, hback]
    rw [List.length_singleton]
    omega
  · have htail : Stops Character.isDigit
        ('e' :: (if ((d :: c :: rest).length : Int) + x.exponent - 1 < 0
            then '-' else '+')
          :: Numeral.filled 2
            (((d :: c :: rest).length : Int) + x.exponent - 1).natAbs) :=
      stops_cons (by decide) _
    show Decimal.size?
      ([d] ++ .scalar '.' :: (c :: rest ++ .scalar 'e' :: _)) = _
    rw [Decimal.size?_point_append (by simpa using hdigit d)
      (fun c h => hdigit c (List.mem_cons_of_mem _ h)) htail,
      if_neg (by simp), Decimal.tailExponent?, if_pos (by decide), hread,
      Option.map_some]
    refine hback _ ?_
    simp only [List.length_cons]
    omega

-- ======================================================== with the point

/-- Digits on both sides of a point: a numeral before it and at least one
digit behind it, which together denote `x`. -/
structure Pointed (x : Scientific) (whole fraction : Text) : Prop where
  numeral : Numeral.IsNumeral (Numeral.value whole) whole
  ne_nil : fraction ≠ []
  isDigit : ∀ c ∈ fraction, c.isDigit = true
  coefficient : Numeral.value (whole ++ fraction) = x.coefficient
  exponent : -(fraction.length : Int) = x.exponent

theorem Pointed.size? {whole fraction : Text} (h : x.Pointed whole fraction) :
    Decimal.size? (whole ++ .scalar '.' :: fraction) = some x := by
  rw [Decimal.size?_point h.numeral.isDigit h.isDigit,
    if_neg fun hnil => h.ne_nil hnil.2, h.coefficient, h.exponent]

/-- The number as it is read back where its point is written: the zeros up
to the point and the one behind it are digits of it. -/
def spelled (x : Scientific) : Scientific :=
  if x.exponent < 0 then x
  else ⟨x.coefficient * power 10 (x.exponent.toNat + 1), -1⟩

/-- The point left of the digits. -/
theorem pointed_left (h : x.point ≤ 0) :
    x.Pointed ['0']
      (List.replicate (-x.point).toNat (.scalar '0')
        ++ Numeral.digits x.coefficient)
    where
  numeral := by
    have hzero := Numeral.isNumeral_digits 0
    rw [Numeral.digits_of_lt (by decide)] at hzero
    exact hzero
  ne_nil hnil :=
    Numeral.digits_ne_nil _ (List.append_eq_nil_iff.mp hnil).2
  isDigit c hc := by
    rcases List.mem_append.mp hc with hzero | hdigit
    · rw [List.eq_of_mem_replicate hzero]
      rfl
    · exact Numeral.isDigit_of_mem_digits hdigit
  coefficient := by
    rw [← List.append_assoc, ← List.replicate_one,
      List.replicate_append_replicate, Numeral.value_zeros_append,
      Numeral.value_digits]
  exponent := by
    rw [List.length_append, List.length_replicate]
    unfold point at *
    omega

/-- The point among the digits. -/
theorem pointed_among (hleft : 0 < x.point)
    (hright : x.point < (Numeral.digits x.coefficient).length) :
    x.Pointed ((Numeral.digits x.coefficient).take x.point.toNat)
      ((Numeral.digits x.coefficient).drop x.point.toNat) where
  numeral := (Numeral.isNumeral_digits _).take (by omega)
  ne_nil hnil := by
    have := List.drop_eq_nil_iff.mp hnil
    omega
  isDigit c hc := Numeral.isDigit_of_mem_digits (List.mem_of_mem_drop hc)
  coefficient := by
    rw [List.take_append_drop, Numeral.value_digits]
  exponent := by
    rw [List.length_drop]
    unfold point at *
    omega

/-- The point right of the digits. -/
theorem pointed_right (hzero : x.coefficient = 0 → x.exponent = 0)
    (h : (Numeral.digits x.coefficient).length ≤ x.point) :
    x.spelled.Pointed
      (Numeral.digits x.coefficient ++ List.replicate
        (x.point.toNat - (Numeral.digits x.coefficient).length)
        (.scalar '0'))
      ['0'] := by
  have hcount : x.point.toNat - (Numeral.digits x.coefficient).length
      = x.exponent.toNat := by
    unfold point at *
    omega
  have hspelled : x.spelled
      = ⟨x.coefficient * power 10 (x.exponent.toNat + 1), -1⟩ := by
    refine if_neg ?_
    unfold point at *
    omega
  have hnumeral := (Numeral.isNumeral_digits x.coefficient).append_zeros
    x.exponent.toNat (by omega)
  rw [hcount, hspelled]
  refine ⟨?_, List.cons_ne_nil _ _, by simp, ?_, rfl⟩
  · rw [hnumeral.value]
    exact hnumeral
  · rw [Numeral.value_append_singleton, hnumeral.value, power_add,
      ← Nat.mul_assoc]
    rfl

/-- What is written with its point among the digits has digits on both sides
of it, and they denote the number. -/
theorem positional_pointed (hzero : x.coefficient = 0 → x.exponent = 0) :
    ∃ whole fraction, x.positional = whole ++ .scalar '.' :: fraction
      ∧ x.spelled.Pointed whole fraction := by
  have hexact (h : x.point < (Numeral.digits x.coefficient).length) :
      x.spelled = x := by
    refine if_pos ?_
    unfold point at h
    omega
  have hlength := Numeral.length_digits_pos x.coefficient
  unfold positional
  simp only
  split
  · next hleft =>
    rw [hexact (by omega)]
    exact ⟨['0'], _, rfl, pointed_left hleft⟩
  · next hleft =>
    split
    · next hright =>
      exact ⟨_, ['0'], rfl, pointed_right hzero hright⟩
    · next hright =>
      rw [hexact (by omega)]
      exact ⟨_, _, rfl, pointed_among (by omega) (by omega)⟩

end Scientific

end TildeFormat
