/-
Fields do not divide by zero. Three things are divided by on the way to
a field's text: the block size of padding and of justification, and the
group size of an integer. A field in its domain has them at least one,
so whatever else stops its drawing, a division does not. No bound on the
size of the field is needed for this, unlike for a text to come of it.
-/
import TildeFormat.Proofs.Failing
import TildeFormat.Proofs.Field.Domain

namespace TildeFormat

/-- An attempt that does not fail by a division. -/
def Undivided {α : Type} (attempt : Except Fault α) : Prop :=
  FailsOnly (fun fault => fault.family ≠ .division) attempt

-- ============================================================== pieces

/-- Copies are counted, not divided. -/
theorem undivided_repeated (t : Text) (count : Int) :
    Undivided (repeated t count) := by
  unfold repeated
  split
  · exact failsOnly_error nofun
  · exact failsOnly_ok _

/-- Blocks of at least one character. -/
theorem undivided_blocks (shortfall : Int) {step : Int}
    (h : 1 ≤ step) : Undivided (blocks shortfall step) := by
  have hceiling : Undivided (roundedCeiling shortfall step) := by
    unfold roundedCeiling
    rw [if_neg (by omega)]
    split
    · exact failsOnly_ok _
    · exact failsOnly_error nofun
  exact hceiling.bind fun count => failsOnly_ok _

/-- Groups of at least one digit. -/
theorem undivided_groups (digits : Text) {interval : Int}
    (h : 1 ≤ interval) : Undivided (groups digits interval) := by
  unfold groups
  rw [if_neg (by omega), if_pos (by omega)]
  exact failsOnly_ok _

-- ============================================================== fields

/-- Padding divides by the length of a block, which is one or more. -/
theorem PaddedField.undivided_draw {field : PaddedField}
    (h : 1 ≤ field.colinc) (text : Text) :
    Undivided (field.draw text) := by
  have hpadding : Undivided (field.padding text.length) := by
    unfold padding
    simp only
    split
    · exact (undivided_blocks _ h).bind fun count => failsOnly_ok _
    · exact failsOnly_ok _
  exact hpadding.bind fun count =>
    (undivided_repeated _ _).bind fun fill => failsOnly_ok _

/-- So does a justification. -/
theorem JustifiedField.undivided_draw {field : JustifiedField}
    (h : 1 ≤ field.colinc) (segments : List Text) :
    Undivided (field.draw segments) := by
  have hwidth : Undivided (field.width segments) := by
    unfold width
    simp only
    split
    · exact (undivided_blocks _ h).bind fun count => failsOnly_ok _
    · exact failsOnly_ok _
  refine hwidth.bind fun width => ?_
  refine (failsOnly_mapM (undivided_repeated _) _).bind fun fills => ?_
  split
  · exact failsOnly_ok _
  · exact failsOnly_ok _

/-- Grouping divides by the interval, which is one or more. -/
theorem DecimalField.undivided_draw {field : DecimalField}
    (h : 1 ≤ field.commaInterval) (number : Int) :
    Undivided (field.draw number) := by
  have hbody : Undivided (field.body number) := by
    unfold body
    simp only
    split
    · exact (undivided_groups _ h).bind fun pieces => failsOnly_ok _
    · exact failsOnly_ok _
  refine hbody.bind fun body => ?_
  simp only
  split
  · exact (undivided_repeated _ _).bind fun fill => failsOnly_ok _
  · exact failsOnly_ok _

namespace FixedField

/-- A number is padded without blocks. -/
theorem undivided_padTo (field : FixedField) (width : Int)
    (text : Text) : Undivided (fit.padTo field width text) := by
  unfold fit.padTo
  split
  · exact (undivided_repeated _ _).bind fun fill => failsOnly_ok _
  · exact failsOnly_ok _

/-- And so is what stands for one that does not fit. -/
theorem undivided_overflow (field : FixedField) (width : Int)
    (text : Text) : Undivided (fit.overflow field width text) := by
  unfold fit.overflow
  split
  · exact undivided_repeated _ _
  · exact undivided_padTo _ _ _

/-- Nothing is divided by on the way to a fixed-point text, so this holds
of every field. -/
theorem undivided_draw (field : FixedField) (number : Binary64) :
    Undivided (field.draw number) := by
  have hfixed (fault : FixedFault) :
      Undivided (.error (.fixed fault) : Except Fault Text) :=
    failsOnly_error nofun
  have hfit (sign body : Text) : Undivided (field.fit sign body) := by
    unfold fit
    simp only
    split
    · exact failsOnly_ok _
    · split
      · exact undivided_padTo _ _ _
      · split
        · split
          · exact undivided_padTo _ _ _
          · exact undivided_overflow _ _ _
        · exact undivided_overflow _ _ _
  unfold draw
  split
  · exact hfixed _
  · split
    · exact hfixed _
    · split
      · exact hfixed _
      · exact hfit _ _
    · exact hfixed _

end FixedField

/-- A field in its domain is drawn without a division by zero. -/
theorem Field.undivided_draw {field : Field} (h : field.InDomain) :
    Undivided field.draw := by
  cases field with
  | padded field text => exact PaddedField.undivided_draw h.colinc text
  | decimal field number =>
      exact DecimalField.undivided_draw h.commaInterval number
  | fixed field number => exact FixedField.undivided_draw field number
  | justified field segments =>
      exact JustifiedField.undivided_draw h.colinc segments
  | copies c count => exact undivided_repeated _ _

end TildeFormat
