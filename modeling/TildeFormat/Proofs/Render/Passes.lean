/-
How many passes a loop makes and how one that would never end is stopped.

A pass of a loop over elements is the first one of the loop, or a pass of
the loop that goes on where its first pass left the source. The loop goes
on while its source has elements and, without a limit, only if its place
in the source is not where it was: `GoesOn`. The loop itself compares
what is left of the source; as a body only moves forward, this comes to
the same.
-/
import TildeFormat.Proofs.Render.Forward
import TildeFormat.Proofs.Render.Loop

namespace TildeFormat

variable {body : Cursor → Run} {stuck : RenderError} {forced : Bool}
  {limit : Option Nat} {source here next : Cursor} {earlier : Nat}

-- ================================================================ bounds

/-- The most passes a loop makes: its limit, or without one a pass for
each element of its source, and one if that is forced. -/
def passBound (forced : Bool) (limit : Option Nat) (elements : Nat) :
    Nat :=
  limit.getD (max forced.toNat elements)

/-- Where there is a pass the bound allows one. -/
theorem one_le_passBound {elements : Nat}
    (h : ¬(limit = some 0 ∨ elements = 0 ∧ forced = false)) :
    1 ≤ passBound forced limit elements := by
  cases limit with
  | some n =>
      have hn : n ≠ 0 := fun hn => h (.inl (congrArg some hn))
      exact Nat.one_le_iff_ne_zero.mpr hn
  | none =>
      show 1 ≤ max forced.toNat elements
      cases forced with
      | true => exact Nat.le_max_left _ _
      | false =>
          have helements : elements ≠ 0 := fun hzero =>
            h (.inr ⟨hzero, rfl⟩)
          show 1 ≤ max 0 elements
          omega

/-- The passes after the first one, which used up an element or a pass
of the limit. -/
theorem passBound_rest {left elements : Nat} (hlimit : limit ≠ some 0)
    (hless : limit = none → left < elements) :
    passBound false (limit.map (· - 1)) left + 1
      ≤ passBound forced limit elements := by
  cases limit with
  | some n =>
      have hn : n ≠ 0 := fun h => hlimit (congrArg some h)
      show n - 1 + 1 ≤ n
      omega
  | none =>
      have hless := hless rfl
      show max 0 left + 1 ≤ max forced.toNat elements
      omega

/-- There is no pass at the limit, or without arguments unless one is
forced. -/
theorem noPass_iff :
    NoPass forced limit source
      ↔ limit = some 0 ∨ source.remaining = 0 ∧ forced = false := by
  rw [NoPass, Cursor.exhausted, List.isEmpty_iff_length_eq_zero]
  rfl

/-- A loop over its own arguments stays within the bound, by the recursion
of the loop. -/
theorem overElements_count_le (body : Cursor → Run) (stuck : RenderError)
    (forced : Bool) (limit : Option Nat) (source : Cursor) :
    (overElements body stuck forced limit source).count
      ≤ passBound forced limit source.remaining := by
  induction forced, limit, source using overElements_induction body with
  | h forced limit source ih =>
      by_cases hstop : NoPass forced limit source
      · rw [overElements_none hstop]
        exact Nat.zero_le _
      have hone := one_le_passBound (mt noPass_iff.mpr hstop)
      rw [overElements_pass hstop]
      cases hending : (body source).ending with
      | stopped | escaped => exact hone
      | finished next =>
          simp only
          split
          · exact hone
          · next hmore =>
            split
            · exact hone
            · next hgoes =>
              have hless (hlimit : limit = none) :
                  next.remaining < source.remaining :=
                Decidable.not_not.mp fun h => hgoes ⟨hlimit, h⟩
              have hrest := ih next hstop hending
                (Bool.eq_false_iff.mpr hmore) hless
              exact Nat.le_trans (Nat.add_le_add_right hrest 1)
                (passBound_rest (fun h => hstop (.inl h)) hless)

/-- So does a loop over lists. -/
theorem overSublists_count_le (body : Nat → Cursor → Run)
    (open? : Value → Except RenderError (List Value)) (forced : Bool)
    (limit : Option Nat) (consumed : Nat) (items : List Value) :
    (overSublists body open? forced limit consumed items).count
      ≤ passBound forced limit items.length := by
  induction items generalizing forced limit consumed with
  | nil =>
      rw [overSublists]
      split
      · exact Nat.zero_le _
      · next hgo =>
        have hone : 1 ≤ passBound forced limit 0 :=
          one_le_passBound (by simpa using hgo)
        simp only
        split <;> exact hone
  | cons v rest ih =>
      rw [overSublists]
      split
      · exact Nat.zero_le _
      · next hlimit =>
        have hone : 1 ≤ passBound forced limit (rest.length + 1) :=
          one_le_passBound (by simpa using hlimit)
        have hrest (consumed : Nat) :
            (overSublists body open? false (limit.map (· - 1)) consumed
              rest).count + 1 ≤ passBound forced limit (rest.length + 1) :=
          Nat.le_trans (Nat.add_le_add_right (ih false _ consumed) 1)
            (passBound_rest hlimit fun _ => Nat.lt_succ_self _)
        split
        · exact hone
        · simp only
          split
          · exact hone
          · exact hone
          · exact hrest _
          · exact hrest _

-- ================================================================ passes

/-- After a pass at one place of its source a loop over elements goes on
at the next: there are elements left, and without a limit the pass has
used some up. -/
structure GoesOn (body : Cursor → Run) (limit : Option Nat)
    (source next : Cursor) : Prop where
  ends : (body source).ending = .finished next
  more : next.exhausted = false
  moved : limit = none → next.consumed ≠ source.consumed

/-- A loop over elements comes to a pass, with so many passes before it,
at this place of its source. -/
inductive PassAt (body : Cursor → Run) :
    Bool → Option Nat → Cursor → Nat → Cursor → Prop
  | first {forced : Bool} {limit : Option Nat} {source : Cursor}
      (hgo : ¬NoPass forced limit source) :
      PassAt body forced limit source 0 source
  | later {forced : Bool} {limit : Option Nat} {source next here : Cursor}
      {earlier : Nat} (hgo : ¬NoPass forced limit source)
      (hon : GoesOn body limit source next)
      (h : PassAt body false (limit.map (· - 1)) next earlier here) :
      PassAt body forced limit source (earlier + 1) here

/-- A pass that is made was to be made. -/
theorem PassAt.go (h : PassAt body forced limit source earlier here) :
    ¬NoPass forced limit source := by
  cases h with
  | first hgo => exact hgo
  | later hgo => exact hgo

/-- Without a limit a pass that is gone on from took an argument. -/
theorem GoesOn.remaining_lt (h : GoesOn body limit source next)
    (hbody : Forward body) (hlimit : limit = none) :
    next.remaining < source.remaining :=
  (hbody source next h.ends).remaining_lt_iff.mpr (h.moved hlimit)

/-- A loop that goes on is its first pass and the loop from there. -/
theorem overElements_goesOn (hbody : Forward body)
    (hgo : ¬NoPass forced limit source)
    (h : GoesOn body limit source next) :
    overElements body stuck forced limit source
      = .after (body source)
          (overElements body stuck false (limit.map (· - 1)) next) := by
  rw [overElements_pass hgo, h.ends]
  simp only [h.more]
  refine (if_neg Bool.false_ne_true).trans (if_neg ?_)
  rintro ⟨hlimit, hstays⟩
  exact hstays (h.remaining_lt hbody hlimit)

/-- A loop over elements that does not go on has made one pass. -/
theorem overElements_last (hbody : Forward body)
    (hgo : ¬NoPass forced limit source)
    (h : ∀ next, ¬GoesOn body limit source next) :
    (overElements body stuck forced limit source).count = 1 := by
  rw [overElements_pass hgo]
  cases hends : (body source).ending with
  | stopped | escaped => rfl
  | finished next =>
      simp only
      split
      · rfl
      · next hmore =>
        split
        · rfl
        · next hstuck =>
          refine absurd ⟨hends, Bool.eq_false_iff.mpr hmore, ?_⟩ (h next)
          intro hlimit
          refine (hbody source next hends).remaining_lt_iff.mp ?_
          exact Decidable.not_not.mp fun hstays => hstuck ⟨hlimit, hstays⟩

/-- A loop over elements makes just the passes it comes to. -/
theorem lt_count_iff (hbody : Forward body) :
    earlier < (overElements body stuck forced limit source).count
      ↔ ∃ here, PassAt body forced limit source earlier here := by
  induction earlier generalizing forced limit source with
  | zero =>
      by_cases hstop : NoPass forced limit source
      · rw [overElements_none hstop]
        refine iff_of_false (Nat.lt_irrefl 0) ?_
        rintro ⟨here, h⟩
        exact h.go hstop
      · refine iff_of_true ?_ ⟨source, .first hstop⟩
        by_cases hon : ∃ next, GoesOn body limit source next
        · obtain ⟨next, hon⟩ := hon
          rw [overElements_goesOn hbody hstop hon]
          exact Nat.succ_pos _
        · rw [overElements_last hbody hstop (not_exists.mp hon)]
          exact Nat.one_pos
  | succ earlier ih =>
      by_cases hstop : NoPass forced limit source
      · rw [overElements_none hstop]
        refine iff_of_false (Nat.not_lt_zero _) ?_
        rintro ⟨here, h⟩
        exact h.go hstop
      by_cases hon : ∃ next, GoesOn body limit source next
      · obtain ⟨next, hon⟩ := hon
        rw [overElements_goesOn hbody hstop hon]
        refine Nat.succ_lt_succ_iff.trans (ih.trans ?_)
        constructor
        · rintro ⟨here, h⟩
          exact ⟨here, .later hstop hon h⟩
        · rintro ⟨here, h⟩
          cases h with
          | later _ hon' h =>
              cases hon.ends.symm.trans hon'.ends
              exact ⟨here, h⟩
      · rw [overElements_last hbody hstop (not_exists.mp hon)]
        refine iff_of_false (by omega) ?_
        rintro ⟨here, h⟩
        cases h with
        | later _ hon' _ => exact hon ⟨_, hon'⟩

/-- A loop with no limit stops at a pass that uses nothing up although
there are elements left. -/
theorem PassAt.overElements_stuck (hbody : Forward body)
    (h : PassAt body forced limit source earlier here)
    (hlimit : limit = none)
    (hends : (body here).ending = .finished next)
    (hstays : next.consumed = here.consumed)
    (hmore : next.exhausted = false) (e : RenderError) :
    let passes := overElements body e forced limit source
    passes.count = earlier + 1
      ∧ passes.run.ending = .stopped (.error e) := by
  induction h with
  | first hgo =>
      have hless : ¬next.remaining < _ := fun hless =>
        (hbody _ next hends).remaining_lt_iff.mp hless hstays
      rw [overElements_pass hgo, hends]
      simp only [hmore, Bool.false_eq_true, if_false]
      rw [if_pos ⟨hlimit, hless⟩]
      exact ⟨rfl, rfl⟩
  | later hgo hon _ ih =>
      obtain ⟨hcount, hending⟩ := ih (by rw [hlimit]; rfl) hends hstays
      rw [overElements_goesOn hbody hgo hon]
      exact ⟨congrArg (· + 1) hcount, hending⟩

-- ============================================================ iterations

/-- What the loop of an iteration starts with: its pass limit, its
source, and where the render goes on when the loop leaves its source at a
place. -/
structure LoopStart where
  limit : Option Int
  source : Cursor
  resume : Cursor → Cursor

/-- The start of an iteration's loop. Its source is what is left at the
cursor, or the elements of the next argument. -/
def loopStart (registry : Registry) (clause : Clause) (cursor : Cursor) :
    Except Stop LoopStart :=
  match resolveParams Shape.iteration.name clause.params
      (registry.slots Shape.iteration.opener) cursor with
  | .error e => .error (.error e)
  | .ok (values, next) =>
    match passLimit? values with
    | .error why => .error why
    | .ok limit =>
      if clause.modifiers.atSign then .ok ⟨limit, next, id⟩
      else
        match next.take Shape.iteration.name clause.position with
        | .error e => .error (.error e)
        | .ok (argument, last) =>
          match openList clause.position argument with
          | .error e => .error (.error e)
          | .ok items => .ok ⟨limit, .ofList items, fun _ => last⟩

/-- An iteration stops before its loop, or runs its loop. -/
theorem renderIteration_cases (registry : Registry)
    (body : Construct → Cursor → Run) (atLeastOnce : Bool)
    (clause : Clause) (cursor : Cursor) :
    match loopStart registry clause cursor with
    | .error why =>
      ∃ events, renderIteration registry body atLeastOnce clause cursor
        = ⟨[], events, .stopped why⟩
    | .ok start =>
      renderIteration registry body atLeastOnce clause cursor
        = ((iterate body atLeastOnce clause start.limit
            start.source).toRun clause.position start.resume).noting
          [.looping clause.position start.limit] := by
  unfold loopStart renderIteration
  cases resolveParams Shape.iteration.name clause.params
      (registry.slots Shape.iteration.opener) cursor with
  | error e => exact ⟨[], rfl⟩
  | ok resolved =>
      obtain ⟨values, next⟩ := resolved
      simp only [orFail]
      cases passLimit? values with
      | error why => exact ⟨[], rfl⟩
      | ok limit =>
          cases clause.modifiers.atSign with
          | true => rfl
          | false =>
              simp only [Bool.false_eq_true, if_false]
              cases next.take Shape.iteration.name clause.position with
              | error e => exact ⟨_, rfl⟩
              | ok taken =>
                  simp only
                  cases openList clause.position taken.1 with
                  | error e => exact ⟨_, rfl⟩
                  | ok items => rfl

/-- The passes of an iteration are within its limit, and without one
within the elements of its source, but for a forced one. -/
theorem iterate_count_le (body : Construct → Cursor → Run)
    (atLeastOnce : Bool) (clause : Clause) (limit : Option Int)
    (source : Cursor) :
    (iterate body atLeastOnce clause limit source).count
      ≤ passBound atLeastOnce (limit.map Int.toNat)
          source.remaining := by
  unfold iterate
  split
  · exact overSublists_count_le _ _ _ _ _ _
  · exact overElements_count_le _ _ _ _ _

end TildeFormat
