/-
Every render ends. Renders of parts call for renders of smaller parts,
and only loops come back to what they did before. A loop goes on under
the check it makes itself: that it has passes left, and without a limit
that its place in the source has changed. A body never moves it back, so
each time round fewer passes or fewer elements are left.

So no chain of calls goes on for ever, and as one call makes two others
at most, a render makes finitely many.
-/
import TildeFormat.Proofs.Render.Passes

namespace TildeFormat

variable {registry : Registry}

-- ================================================================= calls

/-- A part of a render. The loops are at the start of a pass, or at their
end. -/
inductive Call where
  | node (scope : List Construct) (node : Node) (cursor : Cursor)
  | sequence (scope : List Construct) (nodes : List Node)
      (cursor : Cursor)
  | segments (scope : List Construct) (segments : List (List Node))
      (cursor : Cursor)
  | elements (scope : List Construct) (body : List Node) (forced : Bool)
      (limit : Option Nat) (source : Cursor)
  | sublists (scope : List Construct) (body : List Node)
      (position : Nat) (forced : Bool) (limit : Option Nat)
      (items : List Value)

/-- The parts a part of a render calls for. -/
def Call.callees (registry : Registry) : Call → List Call
  | .node scope (.group items) cursor => [.sequence scope items cursor]
  | .node scope (.iteration body atLeastOnce clause) cursor =>
    match loopStart registry clause cursor with
    | .error _ => []
    | .ok start =>
      let limit := start.limit.map Int.toNat
      if clause.modifiers.colon then
        [.sublists scope body clause.position atLeastOnce limit
          start.source.rest]
      else [.elements scope body atLeastOnce limit start.source]
  | .node scope (.justification parts clause) cursor =>
    match resolveParams Shape.justification.name clause.params
        (registry.slots Shape.justification.opener) cursor with
    | .error _ => []
    | .ok (_, next) => [.segments (.justification :: scope) parts next]
  | .node _ _ _ => []
  | .sequence _ [] _ => []
  | .sequence scope (first :: rest) cursor =>
    .node scope first cursor ::
      match (renderNode registry scope first cursor).ending with
      | .finished next => [.sequence scope rest next]
      | _ => []
  | .segments _ [] _ => []
  | .segments scope (first :: rest) cursor =>
    .sequence scope first cursor ::
      match (renderAll registry scope first cursor).ending with
      | .finished next => [.segments scope rest next]
      | _ => []
  | .elements scope body forced limit source =>
    if limit = some 0 ∨ (source.exhausted = true ∧ forced = false) then []
    else
      .sequence (.elements :: scope) body source ::
        match (renderAll registry (.elements :: scope) body
            source).ending with
        | .finished next =>
          if limit = none ∧ next.consumed = source.consumed
              ∧ next.exhausted = false then []
          else [.elements scope body false (limit.map (· - 1)) next]
        | _ => []
  | .sublists scope body _ forced limit [] =>
    if limit = some 0 ∨ forced = false then []
    else [.sequence (.sublists 0 :: scope) body (.ofList [])]
  | .sublists scope body position _ limit (v :: rest) =>
    if limit = some 0 then []
    else
      match openList position v with
      | .error _ => []
      | .ok items =>
        .sequence (.sublists rest.length :: scope) body (.ofList items) ::
          match (renderAll registry (.sublists rest.length :: scope) body
              (.ofList items)).ending with
          | .stopped _ => []
          | .escaped true _ => []
          | _ =>
            [.sublists scope body position false (limit.map (· - 1)) rest]

/-- No chain of calls that starts with this one goes on for ever. -/
def Call.Ends (registry : Registry) : Call → Prop :=
  Acc fun callee caller => callee ∈ caller.callees registry

/-- A call ends when those it makes do. -/
theorem Call.ends_of_callees {call : Call}
    (h : ∀ callee ∈ call.callees registry, callee.Ends registry) :
    call.Ends registry := .intro call h

-- ================================================================= loops

/-- A loop over its own arguments ends when its passes do. By induction on
what bounds the passes: the limit, or the arguments that are left. -/
theorem ends_elements {scope : List Construct} {body : List Node}
    (hbody : ∀ source,
      Call.Ends registry (.sequence (.elements :: scope) body source))
    (forced : Bool) (limit : Option Nat) (source : Cursor) :
    Call.Ends registry (.elements scope body forced limit source) := by
  have hforward := renderAll_forward registry (.elements :: scope) body
  induction forced, limit, source using overElements_induction
    (renderAll registry (.elements :: scope) body) with
  | h forced limit source ih =>
      apply Call.ends_of_callees
      rw [Call.callees]
      split
      · nofun
      · next hgo =>
        refine List.forall_mem_cons.mpr ⟨hbody source, ?_⟩
        split
        · next next hends =>
          split
          · nofun
          · next hmoved =>
            refine List.forall_mem_singleton.mpr ?_
            cases hmore : next.exhausted with
            | false =>
                refine ih next hgo hends hmore fun hlimit => ?_
                refine (hforward source next hends).remaining_lt_iff.mpr ?_
                exact fun hstays => hmoved ⟨hlimit, hstays, hmore⟩
            | true =>
                apply Call.ends_of_callees
                rw [Call.callees, if_pos (.inr ⟨hmore, rfl⟩)]
                nofun
        · nofun

/-- A loop over lists takes one at each pass, so it ends with the arguments
at the latest. -/
theorem ends_sublists {scope : List Construct} {body : List Node}
    (hbody : ∀ left source,
      Call.Ends registry (.sequence (.sublists left :: scope) body source))
    (position : Nat) (forced : Bool) (limit : Option Nat)
    (items : List Value) :
    Call.Ends registry
      (.sublists scope body position forced limit items) := by
  induction items generalizing forced limit with
  | nil =>
      apply Call.ends_of_callees
      rw [Call.callees]
      split
      · nofun
      · exact List.forall_mem_singleton.mpr (hbody 0 _)
  | cons v rest ih =>
      apply Call.ends_of_callees
      rw [Call.callees]
      split
      · nofun
      · split
        · nofun
        · next items _ =>
          refine List.forall_mem_cons.mpr ⟨hbody _ (.ofList items), ?_⟩
          split
          · nofun
          · nofun
          · exact List.forall_mem_singleton.mpr (ih false _)

-- ================================================================= trees

mutual

/-- A call ends for every node, by induction on the tree: the calls of a
body are those of smaller nodes. -/
theorem ends_node (registry : Registry) (scope : List Construct)
    (node : Node) (cursor : Cursor) :
    Call.Ends registry (.node scope node cursor) := by
  apply Call.ends_of_callees
  match node with
  | .literal .. | .simple .. | .escape .. => nofun
  | .group items =>
      exact List.forall_mem_singleton.mpr
        (ends_sequence registry scope items cursor)
  | .iteration body atLeastOnce clause =>
      rw [Call.callees]
      split
      · nofun
      · simp only
        split
        · refine List.forall_mem_singleton.mpr (ends_sublists ?_ _ _ _ _)
          exact fun left => ends_sequence registry _ body
        · refine List.forall_mem_singleton.mpr (ends_elements ?_ _ _ _)
          exact ends_sequence registry _ body
  | .justification segments clause =>
      rw [Call.callees]
      split
      · nofun
      · exact List.forall_mem_singleton.mpr
          (ends_segments registry _ segments _)
termination_by structural node

theorem ends_sequence (registry : Registry) (scope : List Construct)
    (nodes : List Node) (cursor : Cursor) :
    Call.Ends registry (.sequence scope nodes cursor) := by
  apply Call.ends_of_callees
  match nodes with
  | [] => nofun
  | node :: rest =>
      rw [Call.callees]
      refine List.forall_mem_cons.mpr
        ⟨ends_node registry scope node cursor, ?_⟩
      split
      · exact List.forall_mem_singleton.mpr
          (ends_sequence registry scope rest _)
      · nofun
termination_by structural nodes

theorem ends_segments (registry : Registry) (scope : List Construct)
    (segments : List (List Node)) (cursor : Cursor) :
    Call.Ends registry (.segments scope segments cursor) := by
  apply Call.ends_of_callees
  match segments with
  | [] => nofun
  | segment :: rest =>
      rw [Call.callees]
      refine List.forall_mem_cons.mpr
        ⟨ends_sequence registry scope segment cursor, ?_⟩
      split
      · exact List.forall_mem_singleton.mpr
          (ends_segments registry scope rest _)
      · nofun
termination_by structural segments

end

/-- No chain of calls goes on for ever. -/
theorem wellFounded_callees (registry : Registry) :
    WellFounded fun callee caller : Call =>
      callee ∈ caller.callees registry := by
  refine ⟨fun call => ?_⟩
  cases call with
  | node scope node cursor => exact ends_node registry scope node cursor
  | sequence scope nodes cursor =>
      exact ends_sequence registry scope nodes cursor
  | segments scope segments cursor =>
      exact ends_segments registry scope segments cursor
  | elements scope body =>
      exact ends_elements (ends_sequence registry _ body) _ _ _
  | sublists scope body =>
      exact ends_sublists (fun _ => ends_sequence registry _ body) _ _ _ _

-- ============================================================ iterations

/-- Without a colon an iteration goes over its own arguments. -/
theorem iterate_of_not_colon (body : Construct → Cursor → Run)
    {clause : Clause} (hcolon : clause.modifiers.colon = false)
    (atLeastOnce : Bool) (limit : Option Int) (source : Cursor) :
    iterate body atLeastOnce clause limit source
      = overElements (body .elements) (stuckError clause.position)
          atLeastOnce (limit.map Int.toNat) source := by
  rw [iterate, hcolon]
  rfl

/-- A loop that is given up ends the run of its iteration so. -/
theorem Passes.toRun_ending_of_stopped {passes : Passes} {why : Stop}
    (h : passes.run.ending = .stopped why) (position : Nat)
    (resume : Cursor → Cursor) :
    (passes.toRun position resume).ending = .stopped why := by
  unfold toRun
  rw [h]
  exact h

/-- Iterations end. An iteration stops before its loop, or its loop makes
no more passes than its limit, of which a negative one allows none, and
without a limit no more than its source has elements, or one. A loop over
elements makes just the passes it comes to; without a limit, a pass that
uses nothing up although there are elements left is its last one and the
iteration is given up. So every render ends: each part of it calls for
finitely many others, and no chain of calls goes on for ever. -/
theorem iterations_end (registry : Registry) :
    (∀ scope body atLeastOnce clause cursor,
      let run := renderNode registry scope
        (.iteration body atLeastOnce clause) cursor
      match loopStart registry clause cursor with
      | .error why => ∃ events, run = ⟨[], events, .stopped why⟩
      | .ok start =>
        let loop := iterate
          (fun construct => renderAll registry (construct :: scope) body)
          atLeastOnce clause start.limit start.source
        run = (loop.toRun clause.position start.resume).noting
            [.looping clause.position start.limit]
          ∧ (∀ n, start.limit = some n → loop.count ≤ n.toNat)
          ∧ (start.limit = none →
            loop.count ≤ max 1 start.source.remaining)
          ∧ (clause.modifiers.colon = false →
            let pass := renderAll registry (.elements :: scope) body
            (∀ earlier, earlier < loop.count
              ↔ ∃ here, PassAt pass atLeastOnce
                (start.limit.map Int.toNat) start.source earlier here)
              ∧ (start.limit = none → ∀ earlier here next,
                PassAt pass atLeastOnce none start.source earlier here →
                (pass here).ending = .finished next →
                next.consumed = here.consumed →
                next.exhausted = false →
                  loop.count = earlier + 1
                    ∧ ∃ e, run.ending = .stopped (.error e)
                      ∧ e.cause.family = .unsupportedFormat)))
      ∧ WellFounded fun callee caller : Call =>
          callee ∈ caller.callees registry := by
  refine ⟨?_, wellFounded_callees registry⟩
  intro scope body atLeastOnce clause cursor run
  let bodyRun (construct : Construct) :=
    renderAll registry (construct :: scope) body
  have hcases :=
    renderIteration_cases registry bodyRun atLeastOnce clause cursor
  cases hstart : loopStart registry clause cursor with
  | error why =>
      rw [hstart] at hcases
      exact hcases
  | ok start =>
      rw [hstart] at hcases
      let loop := iterate bodyRun atLeastOnce clause start.limit start.source
      have hrun : run = (loop.toRun clause.position start.resume).noting
          [.looping clause.position start.limit] := hcases
      have hcount : loop.count ≤ passBound atLeastOnce
          (start.limit.map Int.toNat) start.source.remaining :=
        iterate_count_le bodyRun atLeastOnce clause _ _
      refine ⟨hrun, ?_, ?_, ?_⟩
      · intro n hlimit
        rw [hlimit] at hcount
        exact hcount
      · intro hlimit
        rw [hlimit] at hcount
        have hforced : atLeastOnce.toNat ≤ 1 := Bool.toNat_le atLeastOnce
        have hbound : loop.count
            ≤ max atLeastOnce.toNat start.source.remaining := hcount
        show loop.count ≤ _
        omega
      · intro hcolon pass
        have hforward : Forward pass := renderAll_forward registry _ body
        have hloop : loop = overElements pass
            (stuckError clause.position) atLeastOnce
            (start.limit.map Int.toNat) start.source :=
          iterate_of_not_colon bodyRun hcolon _ _ _
        refine ⟨fun earlier => ?_, ?_⟩
        · show earlier < loop.count ↔ _
          rw [hloop]
          exact lt_count_iff hforward
        · intro hlimit earlier here next hpass hends hstays hmore
          obtain ⟨hlast, hstuck⟩ := hpass.overElements_stuck hforward rfl
            hends hstays hmore (stuckError clause.position)
          have hloop : loop = overElements pass
              (stuckError clause.position) atLeastOnce none
              start.source := by
            rw [hloop, hlimit]
            rfl
          rw [← hloop] at hlast hstuck
          refine ⟨hlast, stuckError clause.position, ?_, rfl⟩
          rw [hrun]
          exact Passes.toRun_ending_of_stopped hstuck _ _

/-- A loop whose body takes nothing, over two elements. -/
theorem iterations_end_stuckBody :
    let body : List Node := [.literal ['x'] 2]
    let clause : Clause := ⟨[], {}, 0⟩
    let source : Cursor := .ofList [.int 1, .int 2]
    let cursor : Cursor := .ofList [.list source.rest]
    let run := renderNode .standard [] (.iteration body false clause)
      cursor
    let loop := iterate
      (fun construct => renderAll .standard [construct] body) false
      clause none source
    loopStart .standard clause cursor
        = .ok ⟨none, source, fun _ => ⟨1, []⟩⟩
      ∧ PassAt (renderAll .standard [.elements] body) false none source 0
        source
      ∧ loop.count ≤ 2 ∧ loop.count = 1
      ∧ (∃ e, run.ending = .stopped (.error e)
        ∧ e.cause.family = .unsupportedFormat)
      ∧ WellFounded fun callee caller : Call =>
          callee ∈ caller.callees .standard := by
  intro body clause source cursor run loop
  have hstart : loopStart .standard clause cursor
      = .ok ⟨none, source, fun _ => ⟨1, []⟩⟩ := rfl
  have hpass : PassAt (renderAll .standard [.elements] body) false none
      source 0 source := .first (by rintro (h | ⟨h, -⟩) <;> cases h)
  obtain ⟨hiterations, hends⟩ := iterations_end .standard
  have h := hiterations [] body false clause cursor
  rw [hstart] at h
  obtain ⟨-, -, hbound, hplain⟩ := h
  obtain ⟨hlast, hstopped⟩ :=
    (hplain rfl).2 rfl 0 source source hpass rfl rfl rfl
  exact ⟨hstart, hpass, hbound rfl, hlast, hstopped, hends⟩

end TildeFormat
