/-
An iteration over a list and the same iteration with `@` over what is in
the list. The one takes the list as its argument and reads the elements
at a place of their own, the other reads them where the arguments are;
but that place is no other than the one a render starts at. So both run
the same loop over the same source, and they differ only in where the
render would go on, which no result shows.
-/
import TildeFormat.Proofs.Render.Filling
import TildeFormat.Proofs.Render.Passes

namespace TildeFormat

variable {registry : Registry}

-- ============================================================== results

theorem Run.result_noting (run : Run) (events : List Event) :
    (run.noting events).result = run.result := rfl

/-- Where a loop leaves its source, and where the render goes on, are not
part of the result. -/
theorem Passes.result_toRun (passes : Passes) (position : Nat)
    (resume : Cursor → Cursor) :
    (passes.toRun position resume).result = passes.run.result := by
  unfold toRun Run.result
  cases hending : passes.run.ending with
  | finished source => rfl
  | escaped | stopped => simp only [hending]

/-- A template that is one iteration has the result of its loop, if it
comes to it. -/
theorem render_iteration_result (registry : Registry) (body : List Node)
    (atLeastOnce : Bool) (clause : Clause) (arguments : List Value) :
    (render registry [.iteration body atLeastOnce clause] arguments).result
      = match loopStart registry clause (.ofList arguments) with
        | .error why => (Run.stop why).result
        | .ok start =>
          (iterate (fun construct => renderAll registry [construct] body)
            atLeastOnce clause start.limit start.source).run.result := by
  have hcases := renderIteration_cases registry
    (fun construct => renderAll registry [construct] body) atLeastOnce
    clause (.ofList arguments)
  rw [render, renderAll_singleton, renderNode]
  cases hstart : loopStart registry clause (.ofList arguments) with
  | error why =>
      rw [hstart] at hcases
      obtain ⟨events, hrun⟩ := hcases
      rw [hrun]
      rfl
  | ok start =>
      rw [hstart] at hcases
      rw [hcases, Run.result_noting, Passes.result_toRun]

-- =========================================================== two sources

/-- The clause with `@`, or without it. -/
def Clause.withAtSign (clause : Clause) (atSign : Bool) : Clause :=
  { clause with modifiers := { clause.modifiers with atSign } }

/-- Parameters that ask nothing of the arguments. -/
def Kept (params : List Param) : Prop :=
  ∀ param ∈ params,
    param.source ≠ .nextArgument ∧ param.source ≠ .remaining

/-- Such parameters come to the same everywhere. -/
theorem resolveParams_kept (directive : Text) {params : List Param}
    (h : Kept params) (slots : List ParamSpec) :
    ∃ values, ∀ cursor, resolveParams directive params slots cursor
      = .ok (values, cursor) := by
  induction slots generalizing params with
  | nil => exact ⟨[], fun _ => by rw [resolveParams]⟩
  | cons slot slots ih =>
      cases params with
      | nil =>
          obtain ⟨values, hvalues⟩ := ih h
          refine ⟨slot.default :: values, fun cursor => ?_⟩
          rw [resolveParams, List.head?_nil, resolveParam, List.tail_nil]
          show resolveParams directive [] slots cursor >>= _ = _
          rw [hvalues]
          rfl
      | cons param params =>
          obtain ⟨hargument, hcount⟩ := h param (List.mem_cons_self ..)
          obtain ⟨value, hvalue⟩ :=
            resolveParam_kept directive hargument hcount slot
          have hrest : Kept params :=
            fun param hparam => h param (List.mem_cons_of_mem _ hparam)
          obtain ⟨values, hvalues⟩ := ih hrest
          refine ⟨value :: values, fun cursor => ?_⟩
          rw [resolveParams_cons (hvalue cursor), hvalues]
          rfl

/-- Over a list, or with `@` over what is in it, a loop starts with the
same limit at the same source. -/
theorem loopStart_spread (registry : Registry) {clause : Clause}
    (hkept : Kept clause.params) {v : Value} {items : List Value}
    (hitems : v.elements? = some items) :
    ∃ limit : Except Stop (Option Int),
      loopStart registry (clause.withAtSign false) (.ofList [v])
          = limit.map (⟨·, .ofList items, fun _ => ⟨1, []⟩⟩)
        ∧ loopStart registry (clause.withAtSign true) (.ofList items)
          = limit.map (⟨·, .ofList items, id⟩) := by
  obtain ⟨values, hvalues⟩ := resolveParams_kept Shape.iteration.name
    hkept (registry.slots Shape.iteration.opener)
  have hopen : openList clause.position v = .ok items := by
    rw [openList, hitems]
  refine ⟨passLimit? values, ?_, ?_⟩
  · simp only [loopStart, Clause.withAtSign, hvalues]
    cases passLimit? values with
    | error why => rfl
    | ok limit =>
        have htake : (Cursor.ofList [v]).take Shape.iteration.name
            clause.position = .ok (v, ⟨1, []⟩) := rfl
        simp only [htake, hopen]
        rfl
  · simp only [loopStart, Clause.withAtSign, hvalues]
    cases passLimit? values <;> rfl

/-- An iteration over a list, or any other value that has elements, and
the same iteration with `@` over these elements as the arguments have the
same result: the same text, or the same error after the same text so
far. -/
theorem render_iteration_spread {clause : Clause}
    (hkept : Kept clause.params) {v : Value} {items : List Value}
    (hitems : v.elements? = some items) (body : List Node)
    (atLeastOnce : Bool) :
    (render registry
        [.iteration body atLeastOnce (clause.withAtSign false)] [v]).result
      = (render registry
          [.iteration body atLeastOnce (clause.withAtSign true)]
          items).result := by
  obtain ⟨limit, hlist, hspread⟩ :=
    loopStart_spread registry hkept hitems
  rw [render_iteration_result, render_iteration_result, hlist, hspread]
  cases limit with
  | error why => rfl
  | ok limit => rfl

/-- Two sublists, the first left by an escape and the second with less
than it says is to be skipped. -/
theorem render_iteration_spread_tooFew :
    let clause : Clause := ⟨[⟨.integer 5, 1⟩], ⟨true, false⟩, 0⟩
    let body : List Node :=
      [ .simple .skip ⟨[⟨.nextArgument, 5⟩], {}, 4⟩,
        .literal ['x'] 8,
        .escape 1 ⟨[⟨.remaining, 10⟩, ⟨.integer 1, 12⟩], {}, 9⟩,
        .literal (word ", ") 14 ]
    let items : List Value :=
      [ .list [.int 1, .nothing, .truth true],
        .list [.int 2, .nothing] ]
    let failure : Failure :=
      .render ⟨.exhausted 3 2, some 4, Kind.skip.name⟩ ['x']
    Kept clause.params ∧ (Value.list items).elements? = some items
      ∧ (render .standard
          [.iteration body false (clause.withAtSign false)]
          [.list items]).result = .error failure
      ∧ (render .standard
          [.iteration body false (clause.withAtSign true)]
          items).result = .error failure := by
  intro clause body items failure
  have hkept : Kept clause.params := by
    intro param hparam
    cases List.mem_singleton.mp hparam
    exact ⟨nofun, nofun⟩
  have hitems : (Value.list items).elements? = some items := rfl
  have hlist : (render .standard
      [.iteration body false (clause.withAtSign false)]
      [.list items]).result = .error failure := by
    with_unfolding_all rfl
  exact ⟨hkept, hitems, hlist,
    (render_iteration_spread hkept hitems body false).symm.trans hlist⟩

end TildeFormat
