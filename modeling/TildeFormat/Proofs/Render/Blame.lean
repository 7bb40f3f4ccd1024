/-
Which directive the errors of a render are blamed on. A directive that is
given up names itself, and a place that is its own: that of its tilde or
of one of its parameters. It is never blamed for an escape with nothing
around it, which is the one error that says something about the tree and
not about the arguments.

A condition on errors is kept by runs that follow one another and by
loops, so each directive is looked at by itself, and a tree is left to
whoever has a condition to carry through it.
-/
import TildeFormat.Proofs.Failing
import TildeFormat.Proofs.Render.Loop
import TildeFormat.Proofs.Template.Moved

namespace TildeFormat

-- ============================================================== errors

/-- The error of an escape with no construct around it. -/
def RenderError.IsStray (e : RenderError) : Prop :=
  e.cause.family = .escapeOutsideConstruct

/-- The error names a directive and one of its places, and is no stray
escape. -/
structure RenderError.BlamedOn (directive : Text) (places : List Nat)
    (e : RenderError) : Prop where
  directive : e.directive = directive
  position : ∃ place ∈ places, e.position = some place
  not_stray : ¬e.IsStray

/-- Whatever error a run is given up with satisfies a condition. -/
def Run.FailsOnly (P : RenderError → Prop) (run : Run) : Prop :=
  ∀ e, run.ending = .stopped (.error e) → P e

variable {P : RenderError → Prop} {directive : Text} {places : List Nat}
  {position : Nat}

/-- An error is blamed on the directive that is named in it. -/
theorem blamedOn_mk {cause : RenderCause} (h : position ∈ places)
    (hcause : cause.family ≠ .escapeOutsideConstruct) :
    RenderError.BlamedOn directive places
      ⟨cause, some position, directive⟩ :=
  ⟨rfl, ⟨position, h, rfl⟩, hcause⟩

-- =========================================================== arguments

/-- An argument that is not there is missed by its directive. -/
theorem blamedOn_take (h : position ∈ places) (cursor : Cursor) :
    FailsOnly (RenderError.BlamedOn directive places)
      (cursor.take directive position) := by
  unfold Cursor.take
  split
  · exact failsOnly_ok _
  · exact failsOnly_error (blamedOn_mk h nofun)

/-- So is one that is no integer. -/
theorem blamedOn_takeInteger (h : position ∈ places) (cursor : Cursor) :
    FailsOnly (RenderError.BlamedOn directive places)
      (cursor.takeInteger directive position) := by
  refine (blamedOn_take h cursor).bind ?_
  rintro ⟨argument, next⟩
  simp only
  split
  · exact failsOnly_ok _
  · exact failsOnly_error (blamedOn_mk h nofun)

/-- Each of the arguments skipped is missed at the same place. -/
theorem blamedOn_skip (h : position ∈ places) (count : Nat)
    (cursor : Cursor) :
    FailsOnly (RenderError.BlamedOn directive places)
      (cursor.skip directive position count) := by
  induction count generalizing cursor with
  | zero => exact failsOnly_ok cursor
  | succ count ih => exact (blamedOn_take h cursor).bind fun next => ih _

/-- An argument that is no list is blamed on the iteration. -/
theorem blamedOn_openList (h : position ∈ places) (v : Value) :
    FailsOnly (RenderError.BlamedOn Shape.iteration.name places)
      (openList position v) := by
  unfold openList
  split
  · exact failsOnly_ok _
  · exact failsOnly_error (blamedOn_mk h nofun)

-- ========================================================== parameters

/-- A value that does not suit a slot is blamed on the directive of the
slot. -/
theorem blamedOn_resolve (h : position ∈ places) (slot : ParamSpec)
    (v : Value) (shown : Text) :
    FailsOnly (RenderError.BlamedOn directive places)
      (slot.resolve directive position v shown) := by
  unfold ParamSpec.resolve
  split
  · exact failsOnly_error (blamedOn_mk h nofun)
  · split
    · exact failsOnly_error (blamedOn_mk h nofun)
    · split
      · exact failsOnly_error (blamedOn_mk h nofun)
      · exact failsOnly_ok _

/-- What a parameter fails with is blamed at the place of the parameter. -/
theorem blamedOn_resolveParam {param? : Option Param}
    (h : ∀ param, param? = some param → param.position ∈ places)
    (slot : ParamSpec) (cursor : Cursor) :
    FailsOnly (RenderError.BlamedOn directive places)
      (resolveParam directive param? slot cursor) := by
  cases param? with
  | none => exact failsOnly_ok _
  | some param =>
      have hplace := h param rfl
      obtain ⟨source, position⟩ := param
      cases source with
      | omitted | integer | character => exact failsOnly_ok _
      | remaining =>
          exact (blamedOn_resolve hplace slot _ _).bind fun value =>
            failsOnly_ok _
      | nextArgument =>
          refine (blamedOn_take hplace cursor).bind ?_
          rintro ⟨argument, next⟩
          simp only
          split
          · exact failsOnly_ok _
          · exact (blamedOn_resolve hplace slot _ _).bind fun value =>
              failsOnly_ok _

/-- So what all parameters of a directive fail with is blamed at one of
their places. -/
theorem blamedOn_resolveParams {params : List Param}
    (h : ∀ param ∈ params, param.position ∈ places)
    (slots : List ParamSpec) (cursor : Cursor) :
    FailsOnly (RenderError.BlamedOn directive places)
      (resolveParams directive params slots cursor) := by
  induction slots generalizing params cursor with
  | nil => exact failsOnly_ok _
  | cons slot slots ih =>
      rw [resolveParams]
      refine (blamedOn_resolveParam ?_ slot cursor).bind fun value => ?_
      · intro param hparam
        exact h param (List.mem_of_mem_head? hparam)
      · refine (ih ?_ _).bind fun values => failsOnly_ok _
        intro param hparam
        exact h param (List.mem_of_mem_tail hparam)

/-- The parameters of a clause are at its places. -/
theorem Clause.blamedOn_params (clause : Clause)
    (slots : List ParamSpec) (cursor : Cursor) :
    FailsOnly (RenderError.BlamedOn directive clause.places)
      (resolveParams directive clause.params slots cursor) :=
  blamedOn_resolveParams (fun _ hparam =>
    List.mem_cons_of_mem _ (List.mem_map_of_mem hparam)) slots cursor

-- ================================================================ runs

namespace Run

theorem failsOnly_idle (cursor : Cursor) : (idle cursor).FailsOnly P := by
  rintro e ⟨⟩

theorem failsOnly_fail {e : RenderError} (h : P e) :
    (fail e).FailsOnly P := by
  rintro _ ⟨⟩
  exact h

theorem failsOnly_fault (fault : Fault) :
    (stop (.fault fault)).FailsOnly P := by
  rintro e ⟨⟩

/-- An attempt and the run that needs its result. -/
theorem failsOnly_orFail {α : Type} {attempt : Except RenderError α}
    {next : α → Run} (h : TildeFormat.FailsOnly P attempt)
    (hnext : ∀ a, (next a).FailsOnly P) :
    (orFail attempt next).FailsOnly P := by
  cases attempt with
  | error e => exact failsOnly_fail (h e rfl)
  | ok a => exact hnext a

/-- Two runs in a row: an error is of the first or of the second. -/
theorem failsOnly_andThen {run : Run} {next : Cursor → Run}
    (h : run.FailsOnly P) (hnext : ∀ cursor, (next cursor).FailsOnly P) :
    (run.andThen next).FailsOnly P := by
  unfold andThen
  split
  · next cursor _ => exact hnext cursor
  · exact h

/-- A field that cannot be drawn is blamed on its directive. -/
theorem blamedOn_drawField (h : position ∈ places) (field : Field)
    (cursor : Cursor) :
    (drawField directive position field cursor).FailsOnly
      (RenderError.BlamedOn directive places) := by
  intro e he
  unfold drawField at he
  cases hdraw : field.draw with
  | ok t =>
      rw [hdraw] at he
      cases he
  | error fault =>
      rw [hdraw] at he
      cases fault with
      | fixed fault =>
          cases he
          exact blamedOn_mk h nofun
      | _ => cases he

end Run

-- ========================================== directives that take a step

section

variable {clause : Clause} {values : List ParamValue} {cursor : Cursor}

/-- What a built-in action fails with is blamed at a place of its clause.
-/
theorem blamedOn_act (kind : Kind) :
    (kind.act directive clause values cursor).FailsOnly
      (RenderError.BlamedOn directive clause.places) := by
  have hplace := clause.position_mem
  cases kind with
  | human | machine =>
      simp only [Kind.act, renderText]
      split
      · exact Run.failsOnly_orFail (blamedOn_take hplace _) fun _ =>
          Run.blamedOn_drawField hplace _ _
      · exact Run.failsOnly_fault _
  | decimal =>
      simp only [Kind.act, renderDecimal]
      split
      · exact Run.failsOnly_orFail (blamedOn_takeInteger hplace _)
          fun _ => Run.blamedOn_drawField hplace _ _
      · exact Run.failsOnly_fault _
  | fixed =>
      simp only [Kind.act, renderFixed]
      split
      · split
        · refine Run.failsOnly_orFail (blamedOn_take hplace _) ?_
          rintro ⟨argument, next⟩
          simp only
          split
          · exact Run.failsOnly_fault _
          · exact Run.failsOnly_fail (blamedOn_mk hplace nofun)
          · exact Run.blamedOn_drawField hplace _ _
        · exact Run.failsOnly_fault _
      · exact Run.failsOnly_fault _
  | skip =>
      simp only [Kind.act, renderSkip]
      split
      · exact Run.failsOnly_orFail (blamedOn_skip hplace _ _)
          Run.failsOnly_idle
      · exact Run.failsOnly_fault _
  | newline | tilde =>
      simp only [Kind.act, renderCopies]
      split
      · exact Run.blamedOn_drawField hplace _ _
      · exact Run.failsOnly_fault _

/-- What a simple directive fails with is blamed on its own name. -/
theorem blamedOn_renderSimple (registry : Registry) (kind : Kind) :
    (renderSimple registry kind clause cursor).FailsOnly
      (RenderError.BlamedOn kind.name clause.places) := by
  refine Run.failsOnly_orFail (clause.blamedOn_params _ _) ?_
  rintro ⟨values, next⟩
  simp only
  split
  · exact blamedOn_act _
  · exact Run.failsOnly_fault _

/-- An escape inside a construct. -/
theorem blamedOn_renderEscape (registry : Registry) (inner : Construct)
    (scope : List Construct) (depth : Nat) :
    (renderEscape registry (inner :: scope) depth clause
      cursor).FailsOnly (RenderError.BlamedOn escapeName clause.places) := by
  refine Run.failsOnly_orFail (clause.blamedOn_params _ _) ?_
  rintro ⟨values, next⟩
  simp only
  split
  · next why htest =>
    split at htest
    · cases htest
    · unfold escapeFires at htest
      split at htest
      · cases htest
      · cases htest
      · split at htest
        · cases htest
        · cases htest
          exact Run.failsOnly_fail (blamedOn_mk clause.position_mem nofun)
      · cases htest
        exact Run.failsOnly_fault _
  · rintro e ⟨⟩
  · exact Run.failsOnly_idle next

end

-- ================================================================ loops

/-- Whatever a loop does with a pass, the errors stay the same. -/
theorem carries_failsOnly {pass : Run} (h : pass.FailsOnly P) :
    Carries (Run.FailsOnly P) pass where
  last _ := h
  caught _ _ := by rintro e ⟨⟩
  front _ _ hrun := hrun

/-- A loop over its own arguments fails in a pass, or because a pass takes
none. -/
theorem failsOnly_overElements {body : Cursor → Run}
    {stuck : RenderError} (hbody : ∀ source, (body source).FailsOnly P)
    (hstuck : P stuck) (forced : Bool) (limit : Option Nat)
    (source : Cursor) :
    (overElements body stuck forced limit source).run.FailsOnly P := by
  refine overElements_keeps Run.failsOnly_idle
    (fun source => carries_failsOnly (hbody source)) ?_ forced limit source
  rintro source next - e ⟨⟩
  exact hstuck

/-- A loop over lists fails in a pass, or because an argument is no list.
-/
theorem failsOnly_overSublists {body : Nat → Cursor → Run}
    {open? : Value → Except RenderError (List Value)}
    (hbody : ∀ left source, (body left source).FailsOnly P)
    (hopen : ∀ v, FailsOnly P (open? v)) (forced : Bool)
    (limit : Option Nat) (consumed : Nat) (items : List Value) :
    (overSublists body open? forced limit consumed items).run.FailsOnly
      P :=
  overSublists_keeps Run.failsOnly_idle
    (fun left source => carries_failsOnly (hbody left source))
    (fun v e he => Run.failsOnly_fail (hopen v e he)) forced limit consumed
    items

-- ========================================================== constructs

/-- A loop is given up with an error of its own or one of its body. -/
theorem failsOnly_renderIteration {registry : Registry}
    {body : Construct → Cursor → Run} {clause : Clause}
    (hown : ∀ e, RenderError.BlamedOn Shape.iteration.name clause.places e →
      P e)
    (hbody : ∀ construct source, (body construct source).FailsOnly P)
    (atLeastOnce : Bool) (cursor : Cursor) :
    (renderIteration registry body atLeastOnce clause
      cursor).FailsOnly P := by
  have hplace := clause.position_mem
  have hstuck : RenderError.BlamedOn Shape.iteration.name clause.places
      (stuckError clause.position) := blamedOn_mk hplace nofun
  have hloop (limit : Option Int) (source : Cursor)
      (resume : Cursor → Cursor) :
      ((iterate body atLeastOnce clause limit source).toRun
        clause.position resume).FailsOnly P := by
    have hpasses :
        (iterate body atLeastOnce clause limit source).run.FailsOnly P := by
      unfold iterate
      split
      · exact failsOnly_overSublists (fun left => hbody _)
          (fun v e he => hown e (blamedOn_openList hplace v e he)) _ _ _ _
      · exact failsOnly_overElements (hbody _) (hown _ hstuck) _ _ _
    unfold Passes.toRun
    split
    · rintro e ⟨⟩
    · exact hpasses
  refine Run.failsOnly_orFail
    (fun e he => hown e (clause.blamedOn_params _ _ e he)) ?_
  rintro ⟨values, next⟩
  simp only
  split
  · next why hwhy =>
    unfold passLimit? at hwhy
    split at hwhy <;> cases hwhy
    exact Run.failsOnly_fault _
  · next limit _ =>
    cases clause.modifiers.atSign with
    | true => exact hloop limit next id
    | false =>
        refine Run.failsOnly_orFail
          (fun e he => hown e (blamedOn_take hplace _ e he)) ?_
        rintro ⟨argument, last⟩
        exact Run.failsOnly_orFail
          (fun e he => hown e (blamedOn_openList hplace _ e he))
          fun items => hloop limit (.ofList items) fun _ => last

/-- A justification is given up with an error of its own or one of its
segments. -/
theorem failsOnly_renderJustification {registry : Registry}
    {segments : Cursor → SegmentRun} {clause : Clause}
    (hown : ∀ e,
      RenderError.BlamedOn Shape.justification.name clause.places e → P e)
    (hsegments : ∀ source e,
      (segments source).ending = .stopped (.error e) → P e)
    (cursor : Cursor) :
    (renderJustification registry segments clause
      cursor).FailsOnly P := by
  refine Run.failsOnly_orFail
    (fun e he => hown e (clause.blamedOn_params _ _ e he)) ?_
  rintro ⟨values, next⟩
  simp only
  split
  · cases hending : (segments next).ending with
    | stopped why =>
        rintro e ⟨⟩
        exact hsegments next e hending
    | finished last | escaped wholeLoop last =>
        intro e he
        exact hown e
          (Run.blamedOn_drawField clause.position_mem _ last e he)
  · exact Run.failsOnly_fault _

/-- A segment and the ones behind it. -/
theorem failsOnly_thenSegments {segment : Run}
    {next : Cursor → SegmentRun} (h : segment.FailsOnly P)
    (hnext : ∀ cursor e, (next cursor).ending = .stopped (.error e) → P e)
    {e : RenderError}
    (he : (segment.thenSegments next).ending = .stopped (.error e)) :
    P e := by
  unfold Run.thenSegments at he
  split at he
  · next cursor _ => exact hnext cursor e he
  · exact h e he

end TildeFormat
