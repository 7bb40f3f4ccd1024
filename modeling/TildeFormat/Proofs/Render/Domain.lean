/-
What a render asks of the primitives. Values get to a slot written out,
left out, as the default of the settings, from an argument or as a count
of arguments, and are checked in two places; whichever way they came,
the fields of a template that was read are drawn in their domain, its
counts and pass limits are not negative, and nothing is divided by zero.
-/
import TildeFormat.Formatter
import TildeFormat.Proofs.Field.Division
import TildeFormat.Proofs.Render.Accounting
import TildeFormat.Proofs.Template.Soundness

namespace TildeFormat

variable {settings : Settings}

/-- An event that happens as it is meant to has no fault of division. -/
theorem Event.Proper.fault?_ne_division {event : Event}
    (h : event.Proper) : event.fault? ≠ some .division := by
  intro hfault
  cases event with
  | drawn field =>
      simp only [Event.fault?] at hfault
      split at hfault
      · cases hfault
      · cases hfault
      · next fault _ hdraw =>
        exact Field.undivided_draw h fault hdraw (Option.some.inj hfault)
  | rounded n d =>
      simp only [Event.fault?] at hfault
      split at hfault <;> cases hfault
  | skipped | looping | looped | tested => cases hfault

/-- A run whose events account for its ending does not end in a fault of
division. -/
theorem Run.Accounts.fault_family_ne {run : Run} (h : run.Accounts)
    {fault : Fault} (hresult : run.result = .error (.fault fault)) :
    fault.family ≠ .division := by
  intro hdivision
  have hending : run.ending.fault? = some .division := by
    unfold Run.result at hresult
    split at hresult
    · cases hresult
    · cases hresult
    · cases hresult
    · next hending =>
      cases hresult
      rw [hending, ← hdivision]
      rfl
  have hmem : FaultFamily.division
      ∈ run.events.filterMap Event.fault? := by
    rw [h.faults, hending]
    exact List.mem_singleton_self _
  obtain ⟨event, hevent, hfault⟩ := List.mem_filterMap.mp hmem
  exact (h.proper event hevent).fault?_ne_division hfault

/-- Whatever the settings and the arguments, a render of a template that
was read draws fields in their domain only, and without a division by
zero; it skips no negative number of arguments, starts no loop with a
negative limit, and ends in no fault of division. -/
theorem render_inDomain {t : Text} {tree : List Node}
    (hparse : parse (.builtin settings) t = .ok tree)
    (arguments : List Value) :
    let run := render (.builtin settings) tree arguments
    (∀ field, .drawn field ∈ run.events →
        field.InDomain
          ∧ ∀ fault, field.draw = .error fault →
            fault.family ≠ .division)
      ∧ (∀ count, .skipped count ∈ run.events → 0 ≤ count)
      ∧ (∀ position limit, .looping position limit ∈ run.events →
        ∀ n, limit = some n → 0 ≤ n)
      ∧ ∀ fault, run.result = .error (.fault fault) →
        fault.family ≠ .division := by
  intro run
  have haccounts : run.Accounts :=
    renderAll_accounts (wellFormed_of_parse hparse) ⟨rfl, by simp⟩ _
  refine ⟨fun field hevent => ?_, fun count => haccounts.proper _,
    fun position limit => haccounts.proper _,
    fun fault => haccounts.fault_family_ne⟩
  have hdomain : field.InDomain := haccounts.proper _ hevent
  exact ⟨hdomain, Field.undivided_draw hdomain⟩

/-- A width that is nothing, a group size from the settings, a count of
arguments and a limit that is written out. -/
theorem render_inDomain_variedSlots :
    let settings : Settings := { commaInterval := 2 }
    let tree : List Node :=
      [ .simple .human ⟨[⟨.nextArgument, 1⟩], {}, 0⟩,
        .simple .decimal ⟨[], ⟨true, false⟩, 3⟩,
        .simple .newline ⟨[⟨.remaining, 7⟩], {}, 6⟩,
        .iteration [.simple .skip ⟨[], {}, 12⟩] false
          ⟨[⟨.integer 3, 10⟩], {}, 9⟩ ]
    let arguments : List Value :=
      [.nothing, .str ['x'], .int 12345, .list [.int 1]]
    let run := render (.builtin settings) tree arguments
    parse (.builtin settings) (word "~va~:d~#%~3\x7b~*~\x7d") = .ok tree
      ∧ run.events = [
        .drawn (.padded ⟨0, 1, 0, [' '], false⟩ ['x']),
        .drawn (.decimal ⟨0, [' '], [','], 2, true, false⟩ 12345),
        .drawn (.copies '\n' 1), .looping 9 (some 3), .skipped 1,
        .looped 9 1 ]
      ∧ ((∀ field, .drawn field ∈ run.events →
          field.InDomain
            ∧ ∀ fault, field.draw = .error fault →
              fault.family ≠ .division)
        ∧ (∀ count, .skipped count ∈ run.events → 0 ≤ count)
        ∧ (∀ position limit, .looping position limit ∈ run.events →
          ∀ n, limit = some n → 0 ≤ n)
        ∧ ∀ fault, run.result = .error (.fault fault) →
          fault.family ≠ .division) := by
  intro settings tree arguments run
  have hparse : parse (.builtin settings)
      (word "~va~:d~#%~3\x7b~*~\x7d") = .ok tree := by
    with_unfolding_all rfl
  let passes := overElements
    (renderAll (.builtin settings) [.elements]
      [.simple .skip ⟨[], {}, 12⟩])
    (stuckError 9) false (some 3) (.ofList [.int 1])
  have hpasses : passes = ⟨1, [], [.skipped 1], .finished ⟨1, []⟩⟩ :=
    overElements_pass (by simp [NoPass, Cursor.exhausted, Cursor.ofList])
  have hrun : run
      = (((passes.toRun 9 fun _ => ⟨4, []⟩).noting
          [.looping 9 (some 3)]).andThen .idle).behind (word "x1,23,45\n")
            [ .drawn (.padded ⟨0, 1, 0, [' '], false⟩ ['x']),
              .drawn (.decimal ⟨0, [' '], [','], 2, true, false⟩ 12345),
              .drawn (.copies '\n' 1) ] := by
    with_unfolding_all rfl
  have hevents := congrArg Run.events hrun
  rw [hpasses] at hevents
  exact ⟨hparse, hevents, render_inDomain hparse arguments⟩

end TildeFormat
