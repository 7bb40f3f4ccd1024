/-
The domain of the fields, and what drawing one can come to there. A field
is in its domain when its widths and counts are not negative, its block
and group sizes are at least one and its pad texts are one character.

Drawing such a field gives a text, or a fixed-point fault that the
directive reports as its own. The one thing that can still go wrong is
its size: a count that no text can be repeated by, or a shortfall that
has no binary64 value. Both take a field that asks for more characters
than the largest count, so a field that asks for fewer is drawn.
-/
import TildeFormat.Proofs.Binary64.Range
import TildeFormat.Field

namespace TildeFormat

-- ============================================================== domain

/-- The numbers and the pad text of padding and of justification. -/
structure PaddingInDomain (mincol colinc minpad : Int) (padchar : Text) :
    Prop where
  mincol : 0 ≤ mincol
  colinc : 1 ≤ colinc
  minpad : 0 ≤ minpad
  padchar : padchar.length = 1

/-- What integer fields are drawn with. -/
structure DecimalField.InDomain (field : DecimalField) : Prop where
  mincol : 0 ≤ field.mincol
  padchar : field.padchar.length = 1
  commachar : field.commachar.length = 1
  commaInterval : 1 ≤ field.commaInterval

/-- What fixed-point fields are drawn with. -/
structure FixedField.InDomain (field : FixedField) : Prop where
  width : ∀ w, field.width = some w → 0 ≤ w
  digits : ∀ d, field.digits = some d → 0 ≤ d
  overflowchar : ∀ t, field.overflowchar = some t → t.length = 1
  padchar : field.padchar.length = 1

/-- The parameters of a field are what its rule is made for. -/
def Field.InDomain : Field → Prop
  | padded field _ =>
    PaddingInDomain field.mincol field.colinc field.minpad field.padchar
  | decimal field _ => field.InDomain
  | fixed field _ => field.InDomain
  | justified field _ =>
    PaddingInDomain field.mincol field.colinc field.minpad field.padchar
  | copies _ count => 0 ≤ count

-- ============================================================== extent

/-- The characters asked for to cover a shortfall in whole steps. Where
the number of steps has no binary64 value the shortfall stands for them,
being no larger. -/
def stepsExtent (shortfall step : Int) : Int :=
  match blocks shortfall step with
  | .ok extent => extent
  | .error _ => shortfall

/-- The characters a text asks for with its padding. -/
def PaddedField.extent (field : PaddedField) (length : Nat) : Int :=
  let shortfall := field.mincol - length - field.minpad
  length + field.minpad
    + if 0 < shortfall then stepsExtent shortfall field.colinc else 0

/-- The characters segments ask for with their padding. -/
def JustifiedField.extent (field : JustifiedField)
    (segments : List Text) : Int :=
  let content : Int := contentLength segments
  let needed := content + field.points segments * field.minpad
  max content (field.mincol
    + if field.mincol < needed then
        stepsExtent (needed - field.mincol) field.colinc
      else 0)

/-- The characters a field asks for, besides what it shows in full. -/
def Field.extent : Field → Int
  | padded field text => field.extent text.length
  | decimal field _ => field.mincol
  | fixed field _ => field.width.getD 0
  | justified field segments => field.extent segments
  | copies _ count => count

-- ============================================================ repeating

theorem repeated_eq_ok {t : Text} {count : Int} (hlow : -countLimit ≤ count)
    (hhigh : count < countLimit) :
    repeated t count = .ok (t.copies count.toNat) := by
  unfold repeated
  exact if_neg (by omega)

/-- A character that can be counted is repeated. -/
theorem repeated_singleton (c : Character) {count : Int} (hlow : 0 ≤ count)
    (hhigh : count < countLimit) :
    repeated [c] count = .ok (List.replicate count.toNat c) := by
  have hlimit : 0 ≤ countLimit := by decide
  rw [repeated_eq_ok (by omega) hhigh, Text.copies,
    List.flatten_replicate_singleton]

theorem repeated_of_nonneg {t : Text} {count : Int} (hlow : 0 ≤ count)
    (hhigh : count < countLimit) : ∃ u, repeated t count = .ok u := by
  have hlimit : 0 ≤ countLimit := by decide
  exact ⟨_, repeated_eq_ok (by omega) hhigh⟩

/-- Attempts that all succeed, one after the other. -/
theorem mapM_eq_ok {α β ε : Type} {f : α → Except ε β} {items : List α}
    (h : ∀ item ∈ items, ∃ b, f item = .ok b) :
    ∃ bs, items.mapM f = .ok bs := by
  induction items with
  | nil => exact ⟨[], rfl⟩
  | cons item items ih =>
      obtain ⟨⟨b, hb⟩, hrest⟩ := List.forall_mem_cons.mp h
      obtain ⟨bs, hbs⟩ := ih hrest
      refine ⟨b :: bs, ?_⟩
      rw [List.mapM_cons, hb, hbs]
      rfl

-- =============================================================== blocks

/-- Numbers that can be counts are far from the end of the range. -/
theorem not_beyond_of_lt {n : Int} {d : Nat} (hlow : 0 ≤ n)
    (hhigh : n < countLimit) : ¬Beyond n d := by
  intro ⟨hd, hn⟩
  have hlimit : 0x8000000000000000 ≤ roundingLimit :=
    Nat.le_trans (show _ ≤ (2 * significandLimit - 1) * power 2 10 by decide)
      (Nat.mul_le_mul_left _ (power_le_power (by decide) (by decide)))
  have hle : roundingLimit ≤ roundingLimit * d :=
    Nat.le_mul_of_pos_right _ hd
  unfold countLimit at hhigh
  omega

/-- The ceiling of a quotient that is not negative is a count, unless the
quotient is beyond the range. -/
theorem roundedCeiling_cases {num den : Int} (hnum : 0 ≤ num)
    (hden : 1 ≤ den) :
    (∃ count, roundedCeiling num den = .ok count ∧ 0 ≤ count)
      ∨ roundedCeiling num den = .error .quotientBeyondRange
        ∧ Beyond num den.natAbs := by
  have hsign : (decide (num < 0) != decide (den < 0)) = false := by
    rw [decide_eq_false (by omega), decide_eq_false (by omega)]
    rfl
  unfold roundedCeiling
  rw [if_neg (by omega)]
  cases hquotient : Binary64.ofQuotient? num den with
  | none => exact .inr ⟨rfl, ofQuotient?_eq_none_iff.mp hquotient⟩
  | some number =>
      obtain ⟨x, -, rfl⟩ := Option.map_eq_some_iff.mp hquotient
      rw [hsign]
      exact .inl ⟨_, rfl, Int.natCast_nonneg _⟩

/-- A shortfall covered in steps, if that asks for no more characters
than can be counted. -/
theorem blocks_eq_ok {shortfall step : Int} (hpos : 0 < shortfall)
    (hstep : 1 ≤ step) (hfits : stepsExtent shortfall step < countLimit) :
    blocks shortfall step = .ok (stepsExtent shortfall step)
      ∧ 0 ≤ stepsExtent shortfall step := by
  unfold stepsExtent at hfits ⊢
  rcases roundedCeiling_cases (Int.le_of_lt hpos) hstep with
    ⟨count, hceiling, hcount⟩ | ⟨hceiling, hbeyond⟩
  · have hblocks : blocks shortfall step = .ok (count * step) := by
      rw [blocks, hceiling]
      rfl
    rw [hblocks]
    exact ⟨rfl, Int.mul_nonneg hcount (by omega)⟩
  · have hblocks : blocks shortfall step
        = .error .quotientBeyondRange := by
      rw [blocks, hceiling]
      rfl
    rw [hblocks] at hfits
    exact absurd hbeyond (not_beyond_of_lt (Int.le_of_lt hpos) hfits)

-- =============================================================== padded

namespace PaddedField

theorem padding_eq_ok {field : PaddedField} {length : Nat}
    (h : PaddingInDomain field.mincol field.colinc field.minpad
      field.padchar)
    (hfits : field.extent length < countLimit) :
    ∃ count, field.padding length = .ok count
      ∧ 0 ≤ count ∧ count < countLimit := by
  obtain ⟨-, hcolinc, hminpad, -⟩ := h
  unfold extent at hfits
  unfold padding
  simp only at hfits ⊢
  split
  · next hpos =>
    rw [if_pos hpos] at hfits
    obtain ⟨hblocks, hcount⟩ := blocks_eq_ok hpos hcolinc (by omega)
    rw [hblocks]
    exact ⟨_, rfl, by omega, by omega⟩
  · next hpos =>
    rw [if_neg hpos] at hfits
    exact ⟨_, rfl, by omega, by omega⟩

/-- A padded text that can be counted is drawn. -/
theorem draw_eq_ok {field : PaddedField} {text : Text}
    (h : PaddingInDomain field.mincol field.colinc field.minpad
      field.padchar)
    (hfits : field.extent text.length < countLimit) :
    ∃ t, field.draw text = .ok t := by
  obtain ⟨count, hcount, hlow, hhigh⟩ := padding_eq_ok h hfits
  obtain ⟨fill, hfill⟩ :=
    repeated_of_nonneg (t := field.padchar) hlow hhigh
  unfold draw
  rw [hcount]
  show ∃ t, (repeated field.padchar count >>= _) = .ok t
  rw [hfill]
  exact ⟨_, rfl⟩

end PaddedField

-- ============================================================ justified

namespace JustifiedField

/-- Every pad point gets a share between nothing and all of it. -/
theorem shares_between {low high padding : Int} (points : Nat)
    (hlow : low ≤ 0) (hhigh : 0 ≤ high) (hle : low ≤ padding)
    (hge : padding ≤ high) :
    ∀ share ∈ shares points padding, low ≤ share ∧ share ≤ high := by
  induction points generalizing padding with
  | zero =>
      intro share h
      cases h
  | succ points ih =>
      have hpoints : (0 : Int) < points + 1 := by omega
      -- a share has the sign of the padding and is no larger
      have hshare : low ≤ padding.fdiv (points + 1)
          ∧ padding.fdiv (points + 1) ≤ high
          ∧ low ≤ padding - padding.fdiv (points + 1)
          ∧ padding - padding.fdiv (points + 1) ≤ high := by
        rw [Int.fdiv_eq_ediv_of_nonneg _ (Int.le_of_lt hpoints)]
        by_cases hneg : padding < 0
        · have hlarge : padding ≤ padding / (points + 1) := by
            rw [Int.le_ediv_iff_mul_le hpoints]
            have := Int.mul_le_mul_of_nonpos_left (Int.le_of_lt hneg)
              (show (1 : Int) ≤ points + 1 by omega)
            rwa [Int.mul_one] at this
          have := Int.ediv_neg_of_neg_of_pos hneg hpoints
          omega
        · have hpos : 0 ≤ padding := Int.not_lt.mp hneg
          have := Int.ediv_nonneg hpos (Int.le_of_lt hpoints)
          have := Int.ediv_le_self (points + 1) hpos
          omega
      intro share h
      rcases List.mem_cons.mp h with rfl | h
      · exact ⟨hshare.1, hshare.2.1⟩
      · exact ih hshare.2.2.1 hshare.2.2.2 share h

theorem width_eq_ok {field : JustifiedField} {segments : List Text}
    (h : PaddingInDomain field.mincol field.colinc field.minpad
      field.padchar)
    (hfits : field.extent segments < countLimit) :
    ∃ width, field.width segments = .ok width
      ∧ 0 ≤ width ∧ width < countLimit := by
  obtain ⟨hmincol, hcolinc, -, -⟩ := h
  unfold extent at hfits
  unfold width
  simp only at hfits ⊢
  split
  · next hless =>
    rw [if_pos hless] at hfits
    obtain ⟨hblocks, hcount⟩ :=
      blocks_eq_ok (Int.sub_pos_of_lt hless) hcolinc (by omega)
    rw [hblocks]
    exact ⟨_, rfl, by omega, by omega⟩
  · next hless =>
    rw [if_neg hless] at hfits
    exact ⟨_, rfl, hmincol, by omega⟩

/-- The fills of pad points, where neither the width nor the content
reaches the largest count. -/
theorem fills_eq_ok (points : Nat) (padchar : Text) {width content : Int}
    (hwidth : 0 ≤ width) (hcontent : 0 ≤ content)
    (hwidth' : width < countLimit) (hcontent' : content < countLimit) :
    ∃ fills, (shares points (width - content)).mapM (repeated padchar)
      = .ok fills := by
  apply mapM_eq_ok
  intro share hshare
  have hneg : -content ≤ 0 := by omega
  have hbetween := shares_between _ hneg hwidth (by omega) (by omega)
    share hshare
  exact ⟨_, repeated_eq_ok (by omega) (by omega)⟩

/-- Justified segments that can be counted are drawn. -/
theorem draw_eq_ok {field : JustifiedField} {segments : List Text}
    (h : PaddingInDomain field.mincol field.colinc field.minpad
      field.padchar)
    (hfits : field.extent segments < countLimit) :
    ∃ t, field.draw segments = .ok t := by
  obtain ⟨width, hwidth, hlow, hhigh⟩ := width_eq_ok h hfits
  have hcontent : (contentLength segments : Int) < countLimit :=
    Int.lt_of_le_of_lt (Int.le_max_left _ _) hfits
  obtain ⟨fills, hfills⟩ := fills_eq_ok (field.points segments)
    field.padchar hlow (Int.natCast_nonneg _) hhigh hcontent
  unfold draw
  rw [hwidth]
  show ∃ t, ((shares (field.points segments)
    (width - contentLength segments)).mapM (repeated field.padchar) >>= _)
      = .ok t
  rw [hfills]
  cases field.startsPadded segments with
  | false => exact ⟨_, rfl⟩
  | true =>
      cases fills with
      | nil | cons => exact ⟨_, rfl⟩

end JustifiedField

-- ============================================================== numbers

/-- A text behind as much padding as it lacks. -/
theorem repeated_of_lt (t : Text) {length width : Int}
    (hless : length < width) (hlength : 0 ≤ length)
    (hwidth : width < countLimit) :
    ∃ fill, repeated t (width - length) = .ok fill :=
  repeated_of_nonneg (Int.sub_nonneg_of_le (Int.le_of_lt hless))
    (by omega)

namespace DecimalField

theorem body_eq_ok {field : DecimalField} (h : field.InDomain)
    (number : Int) : ∃ body, field.body number = .ok body := by
  have hinterval := h.commaInterval
  unfold body grouped groups
  simp only
  split
  · rw [if_neg (by omega), if_pos (by omega)]
    exact ⟨_, rfl⟩
  · exact ⟨_, rfl⟩

/-- An integer whose field can be counted is drawn. -/
theorem draw_eq_ok {field : DecimalField} {number : Int}
    (h : field.InDomain) (hfits : field.mincol < countLimit) :
    ∃ t, field.draw number = .ok t := by
  obtain ⟨body, hbody⟩ := body_eq_ok h number
  unfold draw
  rw [hbody]
  show ∃ t, (if _ < field.mincol then repeated field.padchar _ >>= _
    else _) = .ok t
  split
  · next hless =>
    obtain ⟨fill, hfill⟩ := repeated_of_lt field.padchar hless
      (Int.natCast_nonneg _) hfits
    rw [hfill]
    exact ⟨_, rfl⟩
  · exact ⟨_, rfl⟩

end DecimalField

namespace FixedField

theorem padTo_eq_ok (field : FixedField) (text : Text) {width : Int}
    (hfits : width < countLimit) :
    ∃ t, fit.padTo field width text = .ok t := by
  unfold fit.padTo
  split
  · next hless =>
    obtain ⟨fill, hfill⟩ := repeated_of_lt field.padchar hless
      (Int.natCast_nonneg _) hfits
    rw [hfill]
    exact ⟨_, rfl⟩
  · exact ⟨_, rfl⟩

theorem overflow_eq_ok (field : FixedField) (text : Text) {width : Int}
    (hpos : 0 ≤ width) (hfits : width < countLimit) :
    ∃ t, fit.overflow field width text = .ok t := by
  unfold fit.overflow
  cases field.overflowchar with
  | none => exact padTo_eq_ok field text hfits
  | some c => exact repeated_of_nonneg hpos hfits

theorem fit_eq_ok {field : FixedField} {sign body : Text}
    (h : field.InDomain) (hfits : field.width.getD 0 < countLimit) :
    ∃ t, field.fit sign body = .ok t := by
  unfold fit
  simp only
  cases hwidth : field.width with
  | none => exact ⟨_, rfl⟩
  | some width =>
      have hpos := h.width width hwidth
      rw [hwidth, Option.getD_some] at hfits
      simp only
      split
      · exact padTo_eq_ok field _ hfits
      · cases withoutZero? body with
        | none => exact overflow_eq_ok field _ hpos hfits
        | some short =>
            simp only
            split
            · exact padTo_eq_ok field _ hfits
            · exact overflow_eq_ok field _ hpos hfits

/-- A number whose field can be counted is drawn, or has no fixed-point
text. -/
theorem draw_cases {field : FixedField} {number : Binary64}
    (h : field.InDomain) (hfits : field.width.getD 0 < countLimit) :
    (∃ t, field.draw number = .ok t)
      ∨ ∃ fault, field.draw number = .error (.fixed fault) := by
  unfold draw
  split
  · exact .inr ⟨_, rfl⟩
  · cases field.scaled number with
    | error fault => exact .inr ⟨_, rfl⟩
    | ok number =>
        cases number with
        | nan | infinite => exact .inr ⟨_, rfl⟩
        | finite negative x =>
            simp only
            cases field.body x with
            | error fault => exact .inr ⟨_, rfl⟩
            | ok body => exact .inl (fit_eq_ok h hfits)

end FixedField

-- =============================================================== fields

/-- A field in its domain that asks for no more characters than can be
counted has a text, or is a number without a fixed-point one. -/
theorem Field.draw_cases {field : Field} (h : field.InDomain)
    (hfits : field.extent < countLimit) :
    (∃ t, field.draw = .ok t)
      ∨ ∃ fault, field.draw = .error (.fixed fault) := by
  cases field with
  | padded field text => exact .inl (PaddedField.draw_eq_ok h hfits)
  | decimal field number => exact .inl (DecimalField.draw_eq_ok h hfits)
  | fixed field number => exact FixedField.draw_cases h hfits
  | justified field segments =>
      exact .inl (JustifiedField.draw_eq_ok h hfits)
  | copies c count => exact .inl (repeated_of_nonneg h hfits)

end TildeFormat
