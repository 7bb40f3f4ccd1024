/-
What a caller of a render has to be ready for. The errors of a render are
documented, faults are not. A template that was read renders to a text or
to such an error, with one exception: the fixed-point directive rounds an
integer or a fraction to binary64 before anything can go wrong with its
field, and a number too large for that is a fault of range that nothing
on the way turns into an error.

The events of the render tell the two apart, since they account for its
ending. Fields are drawn in their domain, so as long as none asks for
more characters than can be counted they have no faults, and all that is
left are the numbers that were rounded.
-/
import TildeFormat.Proofs.Render.Accounting
import TildeFormat.Proofs.Render.Catching
import TildeFormat.Proofs.Template.Soundness
import TildeFormat.Formatter

namespace TildeFormat

variable {settings : Settings}

/-- A run has a text, or an error of a render for its caller. -/
def Run.Answers (run : Run) : Prop :=
  (∃ text, run.result = .ok text)
    ∨ ∃ e soFar, run.result = .error (.render e soFar)

/-- Every field of a run asks for fewer characters than can be
counted. -/
def Run.Countable (run : Run) : Prop :=
  ∀ field, .drawn field ∈ run.events → field.extent < countLimit

/-- The run rounds a number beyond the range of binary64. -/
def Run.RoundsBeyond (run : Run) : Prop :=
  ∃ n d, .rounded n d ∈ run.events ∧ Beyond n d

/-- A run that catches its escapes answers or ends in a fault. -/
theorem Run.answers_or_fault {run : Run} (h : run.Catches) :
    run.Answers ∧ run.ending.fault? = none
      ∨ ∃ fault, run.result = .error (.fault fault)
        ∧ run.ending.fault? = some fault.family := by
  unfold Answers result
  cases hending : run.ending with
  | finished cursor => exact .inl ⟨.inl ⟨_, rfl⟩, rfl⟩
  | escaped wholeLoop cursor => exact absurd hending (h wholeLoop cursor)
  | stopped why =>
      cases why with
      | error e => exact .inl ⟨.inr ⟨e, _, rfl⟩, rfl⟩
      | fault fault => exact .inr ⟨fault, rfl, rfl⟩

/-- In a countable run that accounts for its ending only the rounding of
a number has a fault. -/
theorem Event.fault?_of_countable {run : Run} (h : run.Accounts)
    (hsize : run.Countable) {event : Event} (hevent : event ∈ run.events)
    {family : FaultFamily} (hfault : event.fault? = some family) :
    ∃ n d, event = .rounded n d ∧ Beyond n d ∧ family = .range := by
  cases event with
  | rounded n d =>
      rw [Event.fault?] at hfault
      split at hfault
      · next hbeyond =>
        cases hfault
        exact ⟨n, d, rfl, hbeyond, rfl⟩
      · cases hfault
  | drawn field =>
      rcases Field.draw_cases (h.proper _ hevent) (hsize field hevent) with
        ⟨t, hdraw⟩ | ⟨fault, hdraw⟩
      · simp [Event.fault?, hdraw] at hfault
      · simp [Event.fault?, hdraw] at hfault
  | _ => cases hfault

/-- A countable run that accounts for its ending ends in a fault of range
when it rounds a number beyond binary64, and in no fault otherwise. -/
theorem Run.Accounts.ending_fault? {run : Run} (h : run.Accounts)
    (hsize : run.Countable) :
    run.RoundsBeyond ∧ run.ending.fault? = some .range
      ∨ ¬run.RoundsBeyond ∧ run.ending.fault? = none := by
  have hfaults := h.faults
  cases hending : run.ending.fault? with
  | none =>
      refine .inr ⟨?_, rfl⟩
      rintro ⟨n, d, hevent, hbeyond⟩
      rw [hending] at hfaults
      have hnone := List.filterMap_eq_nil_iff.mp hfaults _ hevent
      rw [Event.fault?, if_pos hbeyond] at hnone
      cases hnone
  | some family =>
      have hmem : family ∈ run.events.filterMap Event.fault? := by
        rw [hfaults, hending]
        exact List.mem_singleton_self family
      obtain ⟨event, hevent, hfault⟩ := List.mem_filterMap.mp hmem
      obtain ⟨n, d, rfl, hbeyond, rfl⟩ :=
        Event.fault?_of_countable h hsize hevent hfault
      exact .inl ⟨⟨n, d, hevent, hbeyond⟩, rfl⟩

/-- A template that was read renders to a text or an error on any
arguments, unless a number beyond the range of binary64 is rounded; then
the render ends in a fault of range. -/
theorem render_answers_or_faults {t : Text} {tree : List Node}
    (hparse : parse (.builtin settings) t = .ok tree)
    (arguments : List Value)
    (hsize : (render (.builtin settings) tree arguments).Countable) :
    let run := render (.builtin settings) tree arguments
    (¬run.RoundsBeyond → run.Answers)
      ∧ (run.RoundsBeyond → ∃ fault, run.result = .error (.fault fault)
        ∧ fault.family = .range) := by
  intro run
  have haccounts : run.Accounts :=
    renderAll_accounts (wellFormed_of_parse hparse) ⟨rfl, by simp⟩ _
  have hcatches : run.Catches := renderAll_catches _ _ _
  rcases haccounts.ending_fault? hsize with
    ⟨hbeyond, hfamily⟩ | ⟨hwithin, hnone⟩
  · refine ⟨fun h => absurd hbeyond h, fun _ => ?_⟩
    rcases Run.answers_or_fault hcatches with
      ⟨-, hnone⟩ | ⟨fault, hresult, hfault⟩
    · rw [hfamily] at hnone
      cases hnone
    · rw [hfamily] at hfault
      exact ⟨fault, hresult, (Option.some.inj hfault).symm⟩
  · refine ⟨fun _ => ?_, fun h => absurd h hwithin⟩
    rcases Run.answers_or_fault hcatches with
      ⟨hanswers, -⟩ | ⟨fault, -, hfault⟩
    · exact hanswers
    · rw [hnone] at hfault
      cases hfault

/-- An integer of four hundred and one digits in fixed-point notation. -/
theorem render_answers_or_faults_longInteger :
    let run := render .standard [.simple .fixed ⟨[], {}, 0⟩]
      [.int (power 10 400)]
    parse .standard (word "~F") = .ok [.simple .fixed ⟨[], {}, 0⟩]
      ∧ run.Countable ∧ run.RoundsBeyond
      ∧ ∃ fault, run.result = .error (.fault fault)
        ∧ fault.family = .range := by
  intro run
  have hparse : parse .standard (word "~F")
      = .ok [.simple .fixed ⟨[], {}, 0⟩] := by
    with_unfolding_all rfl
  have hevents : run.events = [.rounded (power 10 400) 1] := by
    decide +kernel
  have hsize : run.Countable := by
    intro field hfield
    rw [hevents] at hfield
    cases List.mem_singleton.mp hfield
  have hbeyond : run.RoundsBeyond := by
    refine ⟨power 10 400, 1, ?_, by decide +kernel⟩
    rw [hevents]
    exact List.mem_singleton_self _
  exact ⟨hparse, hsize, hbeyond,
    (render_answers_or_faults hparse _ hsize).2 hbeyond⟩

end TildeFormat
