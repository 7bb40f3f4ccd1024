/-
One pass of a loop at a time. A loop over elements either has nothing to
do or makes a pass, and the pass decides how it goes on.

What a loop does to the runs of its passes is the same for every loop: a
last pass is left as it is, an escape in it is caught, and a pass that is
not the last has the rest of the loop behind it. So a condition on runs
that these three keep, `Carries`, goes over from the passes to the loop.
-/
import TildeFormat.Render

namespace TildeFormat

/-- A loop over elements has no pass to make. -/
def NoPass (forced : Bool) (limit : Option Nat) (source : Cursor) : Prop :=
  limit = some 0 ∨ source.exhausted = true ∧ forced = false

section

variable {body : Cursor → Run} {stuck : RenderError} {forced : Bool}
  {limit : Option Nat} {source : Cursor}

theorem overElements_none (h : NoPass forced limit source) :
    overElements body stuck forced limit source = .none source := by
  rw [overElements]
  exact if_pos h

/-- A pass of a loop over elements, and the passes after it. -/
theorem overElements_pass (h : ¬NoPass forced limit source) :
    overElements body stuck forced limit source
      = match (body source).ending with
        | .stopped _ => ⟨1, body source⟩
        | .escaped _ next => ⟨1, (body source).endingWith (.finished next)⟩
        | .finished next =>
          if next.exhausted then ⟨1, body source⟩
          else if limit = none ∧ ¬next.remaining < source.remaining then
            ⟨1, (body source).endingWith (.stopped (.error stuck))⟩
          else
            .after (body source)
              (overElements body stuck false (limit.map (· - 1)) next) := by
  rw [overElements]
  refine (if_neg h).trans ?_
  simp only
  cases (body source).ending with
  | stopped | escaped => rfl
  | finished next =>
      simp only
      split
      · rfl
      · cases limit with
        | some passes => simp
        | none =>
            by_cases hless : next.remaining < source.remaining
            · simp [hless]
            · simp [hless]

/-- What holds of a loop when it holds of the loop after its pass, if
there is one, holds of every loop. Each further pass has fewer passes
left or, with no limit on them, fewer elements. -/
theorem overElements_induction (body : Cursor → Run)
    {motive : Bool → Option Nat → Cursor → Prop}
    (h : ∀ forced limit source,
      (∀ next, ¬NoPass forced limit source →
        (body source).ending = .finished next →
        next.exhausted = false →
        (limit = none → next.remaining < source.remaining) →
        motive false (limit.map (· - 1)) next) →
      motive forced limit source)
    (forced : Bool) (limit : Option Nat) (source : Cursor) :
    motive forced limit source := by
  have hother {forced : Bool} {limit : Option Nat} {source : Cursor}
      (hlast : ∀ next, (body source).ending ≠ .finished next
        ∨ next.exhausted = true) : motive forced limit source := by
    apply h
    intro next _ hending hmore
    rcases hlast next with hne | hexhausted
    · exact absurd hending hne
    · rw [hexhausted] at hmore
      cases hmore
  induction forced, limit, source using overElements.induct body with
  | case1 forced limit source hstop =>
      exact h _ _ _ fun _ hgo => absurd hstop hgo
  | case2 forced limit source _ pass why hending =>
      exact hother fun next => .inl (by rw [hending]; nofun)
  | case3 forced limit source _ pass wholeLoop next hending =>
      exact hother fun next => .inl (by rw [hending]; nofun)
  | case4 forced limit source _ pass next hending hexhausted =>
      refine hother fun next' => ?_
      by_cases heq : (body source).ending = .finished next'
      · cases hending.symm.trans heq
        exact .inr hexhausted
      · exact .inl heq
  | case5 forced source pass next hending _ passes _ ih =>
      apply h
      intro next' _ heq _ _
      cases hending.symm.trans heq
      exact ih
  | case6 forced source pass next hending _ hless _ ih =>
      apply h
      intro next' _ heq _ _
      cases hending.symm.trans heq
      exact ih
  | case7 forced source pass next hending _ hstays _ =>
      apply h
      intro next' _ heq _ hless
      cases hending.symm.trans heq
      exact absurd (hless rfl) hstays

end

-- ============================================ conditions a loop keeps

/-- A fired escape. -/
def Ending.isEscaped : Ending → Bool
  | .escaped _ _ => true
  | _ => false

/-- The end of the whole render. -/
def Ending.isStopped : Ending → Bool
  | .stopped _ => true
  | _ => false

/-- A pass carries a condition on runs over to its loop: it holds of the
pass itself unless an escape fires in it, and, unless the pass is given
up, of the pass with another place to go on at and of a run with the pass
in front of it. -/
structure Carries (Q : Run → Prop) (pass : Run) : Prop where
  last : pass.ending.isEscaped = false → Q pass
  caught : pass.ending.isStopped = false →
    ∀ next, Q (pass.endingWith (.finished next))
  front : pass.ending.isStopped = false →
    ∀ run, Q run → Q (run.behind pass.text pass.events)

section

variable {Q : Run → Prop}

/-- A property that every pass keeps is kept by a loop over its own
arguments. By the recursion of the loop. -/
theorem overElements_keeps {body : Cursor → Run} {stuck : RenderError}
    (hidle : ∀ source, Q (.idle source))
    (hpass : ∀ source, Carries Q (body source))
    (hstuck : ∀ source next, (body source).ending = .finished next →
      Q ((body source).endingWith (.stopped (.error stuck))))
    (forced : Bool) (limit : Option Nat) (source : Cursor) :
    Q (overElements body stuck forced limit source).run := by
  induction forced, limit, source using overElements_induction body with
  | h forced limit source ih =>
      by_cases hstop : NoPass forced limit source
      · rw [overElements_none hstop]
        exact hidle source
      rw [overElements_pass hstop]
      cases hending : (body source).ending with
      | stopped why =>
          exact (hpass source).last (by rw [hending]; rfl)
      | escaped wholeLoop next =>
          exact (hpass source).caught (by rw [hending]; rfl) next
      | finished next =>
          simp only
          split
          · exact (hpass source).last (by rw [hending]; rfl)
          · next hmore =>
            split
            · exact hstuck source next hending
            · next hgoes =>
              refine (hpass source).front (by rw [hending]; rfl) _ ?_
              refine ih next hstop hending (Bool.eq_false_iff.mpr hmore) ?_
              intro hunlimited
              exact Decidable.not_not.mp fun hstays =>
                hgoes ⟨hunlimited, hstays⟩

/-- The same for a loop over lists, whose arguments are opened first. -/
theorem overSublists_keeps {body : Nat → Cursor → Run}
    {open? : Value → Except RenderError (List Value)}
    (hidle : ∀ source, Q (.idle source))
    (hpass : ∀ left source, Carries Q (body left source))
    (hopen : ∀ v e, open? v = .error e → Q (.fail e)) (forced : Bool)
    (limit : Option Nat) (consumed : Nat) (items : List Value) :
    Q (overSublists body open? forced limit consumed items).run := by
  induction items generalizing forced limit consumed with
  | nil =>
      rw [overSublists]
      split
      · exact hidle _
      · simp only
        split
        · next why hending =>
          exact (hpass _ _).last (by rw [hending]; rfl)
        · next hgoes =>
          refine (hpass _ _).caught ?_ _
          cases hending : (body 0 (.ofList [])).ending with
          | stopped why => exact absurd hending (hgoes why)
          | finished | escaped => rfl
  | cons v rest ih =>
      rw [overSublists]
      split
      · exact hidle _
      · split
        · next e he => exact hopen v e he
        · simp only
          split
          · next why hending =>
            exact (hpass _ _).last (by rw [hending]; rfl)
          · next hending =>
            exact (hpass _ _).caught (by rw [hending]; rfl) _
          · next hending =>
            exact (hpass _ _).front (by rw [hending]; rfl) _
              (ih false _ _)
          · next hending =>
            exact (hpass _ _).front (by rw [hending]; rfl) _
              (ih false _ _)

end

end TildeFormat
