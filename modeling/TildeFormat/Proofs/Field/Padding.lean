/-
Padded fields: how far a text is padded. The rule asks for the least number
of blocks with which the field is wide enough, and what is drawn has that
many while the blocks are together below the limit of the significands.

The number of blocks is the ceiling of a rounded quotient, and a quotient
of at most half the smallest magnitude is rounded to nothing. So a block
that is too large for what is missing is left out where the rule asks for
one, and the text stays narrower than the field. No other text comes out
wrong that could ever be held: where the rule asks for more and the
quotient does not vanish, what is drawn is no shorter than the limit.
-/
import Mathlib.Order.Bounds.Basic
import TildeFormat.Proofs.Field.Justification

namespace TildeFormat.PaddedField

-- =============================================================== padding

/-- A text with pad characters on its left or on its right. -/
def padded (left : Bool) (c : Character) (count : Nat) (text : Text) : Text :=
  if left then List.replicate count c ++ text
  else text ++ List.replicate count c

/-- A padded text, unless its padding is more than can be counted. -/
def counted (left : Bool) (c : Character) (count : Nat) (text : Text) :
    Except Fault Text :=
  if (count : Int) < countLimit then .ok (padded left c count text)
  else .error .countBeyondRange

theorem length_padded (left : Bool) (c : Character) (count : Nat)
    (text : Text) :
    (padded left c count text).length = text.length + count := by
  unfold padded
  split
  · rw [List.length_append, List.length_replicate, Nat.add_comm]
  · rw [List.length_append, List.length_replicate]

variable {field : PaddedField} {mincol colinc minpad : Nat} {c : Character}
  {text : Text}

/-- A field that has its padding is drawn with it. -/
theorem draw_of_padding {count : Nat} (hpadchar : field.padchar = [c])
    (hpadding : field.padding text.length = .ok (count : Int)) :
    field.draw text = counted field.left c count text := by
  unfold draw
  rw [hpadding]
  show (repeated field.padchar count >>= _) = _
  unfold counted
  rw [hpadchar]
  by_cases hcount : (count : Int) < countLimit
  · rw [repeated_singleton c (Int.natCast_nonneg _) hcount, if_pos hcount]
    rfl
  · rw [repeated, if_pos (.inr (Int.not_lt.mp hcount)), if_neg hcount]
    rfl

-- ================================================================= steps

/-- What a text with its least padding lacks to the width of a field. -/
def shortfall (mincol minpad length : Nat) : Nat :=
  mincol - (length + minpad)

/-- There is a least number of blocks that makes a field wide enough. -/
theorem exists_isLeast_steps (mincol minpad length : Nat)
    (hcolinc : 1 ≤ colinc) :
    ∃ steps, IsLeast
      {steps | mincol ≤ length + (minpad + steps * colinc)} steps := by
  obtain ⟨width, ⟨steps, rfl⟩, hholds, hleast⟩ :=
    JustifiedField.exists_isWidth (length + minpad) mincol hcolinc
  refine ⟨steps, by simpa [Nat.add_assoc] using hholds, ?_⟩
  intro other hother
  have hle := hleast other (by simpa [Nat.add_assoc] using hother)
  exact Nat.le_of_mul_le_mul_right (Nat.le_of_add_le_add_left hle) hcolinc

/-- Without anything missing no block is asked for, and otherwise as many
as cover it and no more. -/
theorem covers_of_isLeast {length steps : Nat}
    (h : IsLeast {steps | mincol ≤ length + (minpad + steps * colinc)}
      steps) :
    shortfall mincol minpad length ≤ steps * colinc
      ∧ (0 < steps →
        steps * colinc < shortfall mincol minpad length + colinc) := by
  have hholds : mincol ≤ length + (minpad + steps * colinc) := h.1
  unfold shortfall
  refine ⟨by omega, fun hpos => ?_⟩
  have hfewer : ¬mincol ≤ length + (minpad + (steps - 1) * colinc) := by
    intro hfewer
    have := h.2 hfewer
    omega
  rw [Nat.sub_mul, Nat.one_mul] at hfewer
  have : colinc ≤ steps * colinc := Nat.le_mul_of_pos_left colinc hpos
  omega

/-- Nothing is missing just when no block is asked for. -/
theorem shortfall_pos_iff {length steps : Nat}
    (h : IsLeast {steps | mincol ≤ length + (minpad + steps * colinc)}
      steps) :
    0 < shortfall mincol minpad length ↔ 0 < steps := by
  constructor
  · intro hpos
    have hcovered := (covers_of_isLeast h).1
    rcases Nat.eq_zero_or_pos steps with rfl | hsteps
    · omega
    · exact hsteps
  · intro hsteps
    have hzero : ¬mincol ≤ length + (minpad + 0 * colinc) := by
      intro hzero
      have := h.2 hzero
      omega
    unfold shortfall
    omega

-- =============================================================== regimes

/-- The blocks are so much longer than what is missing that their quotient
is rounded to nothing. -/
def Vanishes (mincol colinc minpad length : Nat) : Prop :=
  0 < shortfall mincol minpad length
    ∧ 2 * unitsPerOne * shortfall mincol minpad length ≤ colinc

variable {left : Bool}

/-- Where nothing is missing, the padding is the least there can be. -/
theorem padding_of_enough {length : Nat}
    (h : shortfall mincol minpad length = 0) :
    padding ⟨mincol, colinc, minpad, [c], left⟩ length
      = .ok (minpad : Int) := by
  unfold shortfall at h
  unfold padding
  exact if_neg (by simp only; omega)

/-- Where something is missing, blocks are added that are counted for
it. -/
theorem padding_of_short {length : Nat}
    (h : 0 < shortfall mincol minpad length) :
    padding ⟨mincol, colinc, minpad, [c], left⟩ length
      = (blocks (shortfall mincol minpad length : Nat) colinc).map
        fun extent => (minpad : Int) + extent := by
  unfold shortfall at h ⊢
  unfold padding
  simp only
  rw [if_pos (by omega), show (mincol : Int) - length - minpad
    = (mincol - (length + minpad) : Nat) by omega]
  cases blocks _ _ <;> rfl

/-- With blocks that are counted, a field is drawn with them. -/
theorem draw_of_blocks {count : Nat}
    (hshort : 0 < shortfall mincol minpad text.length)
    (hblocks : blocks (shortfall mincol minpad text.length : Nat) colinc
      = .ok ((count * colinc : Nat) : Int)) :
    draw ⟨mincol, colinc, minpad, [c], left⟩ text
      = counted left c (minpad + count * colinc) text := by
  refine draw_of_padding rfl ?_
  rw [padding_of_short hshort, hblocks]
  rfl

/-- A text is padded with the least number of blocks that makes the field
wide enough, while these are together below the limit of the
significands. -/
theorem draw_of_isLeast {steps : Nat} (hcolinc : 1 ≤ colinc)
    (h : IsLeast
      {steps | mincol ≤ text.length + (minpad + steps * colinc)} steps)
    (hfits : steps * colinc < significandLimit) :
    draw ⟨mincol, colinc, minpad, [c], left⟩ text
      = counted left c (minpad + steps * colinc) text := by
  have hpos := shortfall_pos_iff h
  obtain ⟨hcovered, hlast⟩ := covers_of_isLeast h
  rcases Nat.eq_zero_or_pos steps with rfl | hsteps
  · rw [Nat.zero_mul]
    exact draw_of_padding rfl (padding_of_enough (by omega))
  · exact draw_of_blocks (hpos.mpr hsteps)
      (blocks_eq_of_lt hcolinc (hpos.mpr hsteps) hcovered (hlast hsteps)
        hfits)

/-- Blocks that vanish are left out, so the text stays too short. -/
theorem draw_of_vanishes (hcolinc : 1 ≤ colinc)
    (h : Vanishes mincol colinc minpad text.length) :
    draw ⟨mincol, colinc, minpad, [c], left⟩ text
      = counted left c minpad text := by
  have hdraw := @draw_of_blocks _ _ _ c text left 0 h.1
    (by rw [Nat.zero_mul]; exact blocks_of_vanishing hcolinc h.2)
  rwa [Nat.zero_mul] at hdraw

/-- Where blocks do not vanish and the rule asks for more than the limit of
the significands, no shorter text is drawn. -/
theorem length_of_draw {steps : Nat} (hcolinc : 1 ≤ colinc)
    (h : IsLeast
      {steps | mincol ≤ text.length + (minpad + steps * colinc)} steps)
    (hlarge : significandLimit ≤ steps * colinc)
    (hcounted : ¬Vanishes mincol colinc minpad text.length) {drawn : Text}
    (hdrawn : draw ⟨mincol, colinc, minpad, [c], left⟩ text = .ok drawn) :
    text.length + minpad + significandLimit ≤ drawn.length := by
  have hsteps : 0 < steps := by
    rcases Nat.eq_zero_or_pos steps with rfl | hsteps
    · exact absurd hlarge (by rw [Nat.zero_mul]; decide)
    · exact hsteps
  have hpos := (shortfall_pos_iff h).mpr hsteps
  have hless := Nat.lt_of_not_le fun hsmall => hcounted ⟨hpos, hsmall⟩
  cases hblocks : blocks (shortfall mincol minpad text.length : Nat)
      colinc with
  | error fault =>
      rw [draw, padding_of_short hpos, hblocks] at hdrawn
      cases hdrawn
  | ok extent =>
      obtain ⟨count, rfl, hcount⟩ := blocks_covers hcolinc hless hblocks
      rw [draw_of_blocks hpos hblocks, counted] at hdrawn
      have hextent : significandLimit ≤ count * colinc := by
        rcases hcount with hcovered | hreached
        · -- no fewer blocks than the rule asks for
          have hle : steps ≤ count := h.2 (by
            show mincol ≤ _
            unfold shortfall at hcovered
            omega)
          exact Nat.le_trans hlarge (Nat.mul_le_mul_right colinc hle)
        · exact hreached
      split at hdrawn
      · cases hdrawn
        rw [length_padded]
        omega
      · cases hdrawn

/-- A text is padded on one side, by `minpad` characters and the least
number of blocks with which the field is wide enough, while the blocks are
together below the limit of the significands. There are two other cases.
Blocks that vanish next to what is missing are left out, and then the text
stays shorter than the field. And where blocks reach the limit without
vanishing, what is drawn reaches it too. -/
theorem draw_blocks (mincol minpad : Nat) {colinc : Nat}
    (hcolinc : 1 ≤ colinc) (c : Character) (left : Bool) (text : Text) :
    ∃ steps, IsLeast
        {steps | mincol ≤ text.length + (minpad + steps * colinc)} steps
      ∧ (steps * colinc < significandLimit →
        draw ⟨mincol, colinc, minpad, [c], left⟩ text
          = counted left c (minpad + steps * colinc) text)
      ∧ (Vanishes mincol colinc minpad text.length →
        draw ⟨mincol, colinc, minpad, [c], left⟩ text
            = counted left c minpad text
          ∧ (padded left c minpad text).length < mincol)
      ∧ (significandLimit ≤ steps * colinc →
        ¬Vanishes mincol colinc minpad text.length →
        ∀ drawn, draw ⟨mincol, colinc, minpad, [c], left⟩ text = .ok drawn →
          text.length + minpad + significandLimit ≤ drawn.length) := by
  obtain ⟨steps, h⟩ :=
    exists_isLeast_steps mincol minpad text.length hcolinc
  refine ⟨steps, h, draw_of_isLeast hcolinc h, fun hvanishes => ?_,
    fun hlarge hcounted drawn => length_of_draw hcolinc h hlarge hcounted⟩
  refine ⟨draw_of_vanishes hcolinc hvanishes, ?_⟩
  have hshort := hvanishes.1
  unfold shortfall at hshort
  rw [length_padded]
  omega

/-- A block of ten to the 400 characters is left out, and two characters
stay alone in a field of five. -/
theorem draw_blocks_vanishing :
    1 ≤ power 10 400
      ∧ Vanishes 5 (power 10 400) 0 ['a', 'b'].length
      ∧ (draw ⟨(5 : Nat), (power 10 400 : Nat), (0 : Nat), [' '], false⟩
          ['a', 'b']).toOption = some [.scalar 'a', .scalar 'b']
      ∧ ∃ steps, IsLeast {steps | 5
            ≤ ['a', 'b'].length + (0 + steps * power 10 400)} steps
        ∧ (steps * power 10 400 < significandLimit →
          draw ⟨(5 : Nat), (power 10 400 : Nat), (0 : Nat), [' '], false⟩
              ['a', 'b']
            = counted false ' ' (0 + steps * power 10 400) ['a', 'b'])
        ∧ (Vanishes 5 (power 10 400) 0 ['a', 'b'].length →
          draw ⟨(5 : Nat), (power 10 400 : Nat), (0 : Nat), [' '], false⟩
                ['a', 'b']
              = counted false ' ' 0 ['a', 'b']
            ∧ (padded false ' ' 0 ['a', 'b']).length < 5)
        ∧ (significandLimit ≤ steps * power 10 400 →
          ¬Vanishes 5 (power 10 400) 0 ['a', 'b'].length →
          ∀ drawn, draw ⟨(5 : Nat), (power 10 400 : Nat), (0 : Nat), [' '],
              false⟩ ['a', 'b'] = .ok drawn →
            ['a', 'b'].length + 0 + significandLimit ≤ drawn.length) :=
  ⟨by decide +kernel, ⟨by decide, by decide +kernel⟩, by decide +kernel,
    draw_blocks 5 0 (by decide +kernel) ' ' false ['a', 'b']⟩

end TildeFormat.PaddedField
