/-
Arguments that are left over. A render takes its arguments from the
front, so with more of them at the end it does the same for as long as
it does not run out. There are only three things that tell it how many
are left: a parameter `#`, an escape without parameters and an iteration
with `@`. In the body of an iteration without `@` they ask about the list
it goes over, which is the same however many arguments are behind it;
anywhere else they see the end of the arguments themselves.

A template that does not see it is rendered twice, to a cursor and to the
same cursor with more behind it. Step by step the two runs are the same
but for what is left behind them, or the first has run out of arguments
and the text of the second starts with what the first put out before
that: `Run.Suffices`. The second case lasts, as nothing goes on after an
error, while what the other run puts out is only added to.
-/
import TildeFormat.Proofs.Render.Catching
import TildeFormat.Proofs.Render.Joining

namespace TildeFormat

-- =============================================================== the end

/-- The number of arguments left is among the parameters. -/
def Clause.countsLeft (clause : Clause) : Bool :=
  clause.params.any fun param => param.source = .remaining

mutual

/-- What the node does can depend on how many arguments are left. The
body of an iteration without `@` has a list of its own. -/
def Node.seesEnd : Node → Bool
  | .literal _ _ => false
  | .simple _ clause => clause.countsLeft
  | .iteration _ _ clause => clause.countsLeft || clause.modifiers.atSign
  | .justification segments clause =>
    clause.countsLeft || segmentsSeeEnd segments
  | .escape _ clause => clause.countsLeft || clause.params.isEmpty
  | .group items => seesEnd items

/-- One of the nodes can depend on how many arguments are left. -/
def seesEnd : List Node → Bool
  | [] => false
  | node :: rest => node.seesEnd || seesEnd rest

/-- One of the segments can depend on how many arguments are left. -/
def segmentsSeeEnd : List (List Node) → Bool
  | [] => false
  | segment :: rest => seesEnd segment || segmentsSeeEnd rest

end

/-- The arguments ran out. -/
def RenderError.IsExhausted (e : RenderError) : Prop :=
  e.cause.family = .argumentExhausted

/-- The cursor with more arguments at the end. -/
def Cursor.extend (extra : List Value) (cursor : Cursor) : Cursor :=
  ⟨cursor.consumed, cursor.rest ++ extra⟩

/-- The ending with more arguments at the end. -/
def Ending.extend (extra : List Value) : Ending → Ending
  | .finished cursor => .finished (cursor.extend extra)
  | .escaped wholeLoop cursor => .escaped wholeLoop (cursor.extend extra)
  | .stopped why => .stopped why

/-- The run with more arguments at the end. -/
def Run.extend (extra : List Value) (run : Run) : Run :=
  run.endingWith (run.ending.extend extra)

/-- The segments with more arguments at the end. -/
def SegmentRun.extend (extra : List Value) (laid : SegmentRun) :
    SegmentRun :=
  { laid with ending := laid.ending.extend extra }

-- ============================================================= relations

/-- What an attempt comes to, and what it comes to with more arguments:
the same, with `more` of them behind it, unless they ran out. -/
inductive Suffices {α : Type} (more : α → α) :
    Except RenderError α → Except RenderError α → Prop
  | ok (a : α) : Suffices more (.ok a) (.ok (more a))
  | error (e : RenderError) : Suffices more (.error e) (.error e)
  | exhausted {e : RenderError} (h : e.IsExhausted)
      (attempt : Except RenderError α) : Suffices more (.error e) attempt

/-- A run, and the run with more arguments: the same, unless they ran
out. Then the other one puts out what this one did, and may go on. -/
inductive Run.Suffices (extra : List Value) : Run → Run → Prop
  | same (run : Run) : Run.Suffices extra run (run.extend extra)
  | exhausted {run run' : Run} {e : RenderError}
      (hending : run.ending = .stopped (.error e)) (h : e.IsExhausted)
      (htext : run.text <+: run'.text) : Run.Suffices extra run run'

/-- Segments, and the segments with more arguments: the same, unless they
ran out. -/
inductive SegmentRun.Suffices (extra : List Value) :
    SegmentRun → SegmentRun → Prop
  | same (laid : SegmentRun) :
      SegmentRun.Suffices extra laid (laid.extend extra)
  | exhausted {laid : SegmentRun} {e : RenderError}
      (hending : laid.ending = .stopped (.error e)) (h : e.IsExhausted)
      (laid' : SegmentRun) : SegmentRun.Suffices extra laid laid'

/-- A result and the cursor after it, with more arguments at the end. -/
def alsoExtend {α : Type} (extra : List Value) (a : α × Cursor) :
    α × Cursor :=
  (a.1, a.2.extend extra)

variable {registry : Registry} {extra : List Value}

/-- Two attempts in a row: the second one is made only when the arguments
sufficed for the first. -/
theorem Suffices.bind {α β : Type} {more : α → α} {more' : β → β}
    {attempt attempt' : Except RenderError α}
    {next next' : α → Except RenderError β}
    (h : Suffices more attempt attempt')
    (hnext : ∀ a, Suffices more' (next a) (next' (more a))) :
    Suffices more' (attempt >>= next) (attempt' >>= next') := by
  cases h with
  | ok a => exact hnext a
  | error e => exact .error e
  | exhausted he => exact .exhausted he _

theorem Suffices.refl {α : Type} (attempt : Except RenderError α) :
    Suffices id attempt attempt := by
  cases attempt with
  | ok a => exact .ok a
  | error e => exact .error e

namespace Run

/-- What is noted on the side does not show. -/
theorem suffices_noting {run run' : Run}
    (h : Run.Suffices extra run run') (events : List Event) :
    Run.Suffices extra (run.noting events) (run'.noting events) := by
  cases h with
  | same => exact .same (run.noting events)
  | exhausted hending he htext => exact .exhausted hending he htext

/-- The same text goes in front of both runs. -/
theorem suffices_behind {run run' : Run}
    (h : Run.Suffices extra run run') (t : Text) (events : List Event) :
    Run.Suffices extra (run.behind t events) (run'.behind t events) := by
  cases h with
  | same => exact .same (run.behind t events)
  | exhausted hending he htext =>
      exact .exhausted hending he ((List.prefix_append_right_inj t).mpr htext)

/-- Two runs in a row. Where the first one ran out of arguments nothing
follows it, and with more of them what follows only adds text. -/
theorem suffices_andThen {run run' : Run} {next : Cursor → Run}
    (h : Run.Suffices extra run run')
    (hnext : ∀ cursor, Run.Suffices extra (next cursor)
      (next (cursor.extend extra))) :
    Run.Suffices extra (run.andThen next) (run'.andThen next) := by
  cases h with
  | same =>
      obtain ⟨text, events, ending⟩ := run
      cases ending with
      | finished cursor => exact suffices_behind (hnext cursor) text events
      | escaped | stopped => exact .same _
  | exhausted hending he htext =>
      have hrun : run.andThen next = run := by rw [andThen, hending]
      have hlonger : run'.text <+: (run'.andThen next).text := by
        unfold andThen
        split
        · exact List.prefix_append _ _
        · exact List.prefix_rfl
      rw [hrun]
      exact .exhausted hending he (htext.trans hlonger)

/-- An attempt and the run that needs its result. -/
theorem suffices_orFail {α : Type} {more : α → α}
    {attempt attempt' : Except RenderError α} {next next' : α → Run}
    (h : TildeFormat.Suffices more attempt attempt')
    (hnext : ∀ a, Run.Suffices extra (next a) (next' (more a))) :
    Run.Suffices extra (orFail attempt next) (orFail attempt' next') := by
  cases h with
  | ok a => exact hnext a
  | error e => exact .same (.fail e)
  | exhausted he => exact .exhausted rfl he List.nil_prefix

end Run

-- ============================================================= arguments

/-- An argument that is there is the same with more behind it. -/
theorem suffices_take (cursor : Cursor) (directive : Text)
    (position : Nat) :
    Suffices (alsoExtend extra) (cursor.take directive position)
      ((cursor.extend extra).take directive position) := by
  obtain ⟨m, rest⟩ := cursor
  cases rest with
  | nil =>
      refine .exhausted ?_ _
      rfl
  | cons v rest => exact .ok (v, Cursor.mk (m + 1) rest)

theorem suffices_takeInteger (cursor : Cursor) (directive : Text)
    (position : Nat) :
    Suffices (alsoExtend extra) (cursor.takeInteger directive position)
      ((cursor.extend extra).takeInteger directive position) := by
  refine (suffices_take cursor directive position).bind ?_
  rintro ⟨argument, next⟩
  simp only [alsoExtend]
  split
  · next n _ => exact .ok (n, next)
  · exact .error _

/-- Arguments are skipped from the front, so more at the end do not matter
while there are enough. -/
theorem suffices_skip (cursor : Cursor) (directive : Text)
    (position count : Nat) :
    Suffices (Cursor.extend extra) (cursor.skip directive position count)
      ((cursor.extend extra).skip directive position count) := by
  induction count generalizing cursor with
  | zero => exact .ok cursor
  | succ count ih =>
      refine (suffices_take cursor directive position).bind ?_
      rintro ⟨_, next⟩
      exact ih next

/-- A parameter other than the number of arguments left. -/
theorem suffices_resolveParam (directive : Text) {param? : Option Param}
    (hparam : ∀ param, param? = some param → param.source ≠ .remaining)
    (slot : ParamSpec) (cursor : Cursor) :
    Suffices (alsoExtend extra)
      (resolveParam directive param? slot cursor)
      (resolveParam directive param? slot (cursor.extend extra)) := by
  cases param? with
  | none => exact .ok (slot.default, cursor)
  | some param =>
      obtain ⟨source, position⟩ := param
      cases source with
      | omitted => exact .ok (slot.default, cursor)
      | integer n => exact .ok (ParamValue.integer n, cursor)
      | character c => exact .ok (ParamValue.text [c], cursor)
      | remaining => exact absurd rfl (hparam _ rfl)
      | nextArgument =>
          refine (suffices_take cursor directive position).bind ?_
          rintro ⟨argument, next⟩
          simp only [alsoExtend]
          split
          · exact .ok (slot.default, next)
          · refine (Suffices.refl _).bind ?_
            intro value
            exact .ok (value, next)

/-- Parameters that do not ask how many arguments are left resolve the
same. -/
theorem suffices_resolveParams (directive : Text) {params : List Param}
    (h : ∀ param ∈ params, param.source ≠ .remaining)
    (slots : List ParamSpec) (cursor : Cursor) :
    Suffices (alsoExtend extra) (resolveParams directive params slots cursor)
      (resolveParams directive params slots (cursor.extend extra)) := by
  induction slots generalizing params cursor with
  | nil => exact .ok ([], cursor)
  | cons slot slots ih =>
      rw [resolveParams, resolveParams]
      have hfirst (param : Param) (hparam : params.head? = some param) :
          param.source ≠ .remaining :=
        h param (List.mem_of_head? hparam)
      have hrest (param : Param) (hparam : param ∈ params.tail) :
          param.source ≠ .remaining :=
        h param (List.mem_of_mem_tail hparam)
      refine (suffices_resolveParam directive hfirst slot cursor).bind ?_
      rintro ⟨value, next⟩
      refine (ih hrest next).bind ?_
      rintro ⟨values, last⟩
      exact .ok (value :: values, last)

/-- A clause that does not count what is left. -/
theorem suffices_params (directive : Text) {clause : Clause}
    (h : clause.countsLeft = false) (slots : List ParamSpec)
    (cursor : Cursor) :
    Suffices (alsoExtend extra)
      (resolveParams directive clause.params slots cursor)
      (resolveParams directive clause.params slots
        (cursor.extend extra)) := by
  refine suffices_resolveParams directive ?_ slots cursor
  intro param hparam hremaining
  have hany : clause.countsLeft = true :=
    List.any_eq_true.mpr ⟨param, hparam, decide_eq_true hremaining⟩
  cases h.symm.trans hany

-- =============================================================== actions

/-- A field does not look at the arguments. -/
theorem suffices_drawField (directive : Text) (position : Nat)
    (field : Field) (cursor : Cursor) :
    Run.Suffices extra (drawField directive position field cursor)
      (drawField directive position field (cursor.extend extra)) := by
  apply Run.suffices_noting
  cases field.draw with
  | ok t => exact .same (.emit t cursor)
  | error fault =>
      cases fault with
      | _ => exact .same (.stop _)

section

variable (directive : Text) (clause : Clause) (values : List ParamValue)
  (cursor : Cursor)

/-- A directive that puts out an argument takes one and draws a field. -/
theorem suffices_renderText (form : Form) :
    Run.Suffices extra (renderText form directive clause values cursor)
      (renderText form directive clause values (cursor.extend extra)) := by
  unfold renderText
  split
  · refine Run.suffices_orFail (suffices_take cursor _ _) ?_
    rintro ⟨argument, next⟩
    exact suffices_drawField _ _ _ next
  · exact .same (.stop _)

theorem suffices_renderDecimal :
    Run.Suffices extra (renderDecimal directive clause values cursor)
      (renderDecimal directive clause values (cursor.extend extra)) := by
  unfold renderDecimal
  split
  · refine Run.suffices_orFail (suffices_takeInteger cursor _ _) ?_
    rintro ⟨number, next⟩
    exact suffices_drawField _ _ _ next
  · exact .same (.stop _)

theorem suffices_renderFixed :
    Run.Suffices extra (renderFixed directive clause values cursor)
      (renderFixed directive clause values (cursor.extend extra)) := by
  unfold renderFixed
  split
  · split
    · refine Run.suffices_orFail (suffices_take cursor _ _) ?_
      rintro ⟨argument, next⟩
      apply Run.suffices_noting
      simp only
      split
      · exact .same (.stop _)
      · exact .same (.fail _)
      · exact suffices_drawField _ _ _ next
    · exact .same (.stop _)
  · exact .same (.stop _)

theorem suffices_renderSkip :
    Run.Suffices extra (renderSkip directive clause values cursor)
      (renderSkip directive clause values (cursor.extend extra)) := by
  unfold renderSkip
  split
  · apply Run.suffices_noting
    exact Run.suffices_orFail (suffices_skip cursor _ _ _) fun next =>
      .same (.idle next)
  · exact .same (.stop _)

theorem suffices_renderCopies (c : Character) :
    Run.Suffices extra (renderCopies c directive clause values cursor)
      (renderCopies c directive clause values (cursor.extend extra)) := by
  unfold renderCopies
  split
  · exact suffices_drawField _ _ _ cursor
  · exact .same (.stop _)

/-- Arguments suffice for a built-in action, or run out in it. -/
theorem suffices_act (kind : Kind) :
    Run.Suffices extra (kind.act directive clause values cursor)
      (kind.act directive clause values (cursor.extend extra)) := by
  cases kind with
  | human | machine => exact suffices_renderText _ _ _ _ _
  | decimal => exact suffices_renderDecimal _ _ _ _
  | fixed => exact suffices_renderFixed _ _ _ _
  | skip => exact suffices_renderSkip _ _ _ _
  | newline | tilde => exact suffices_renderCopies _ _ _ _ _

end

/-- The same for a simple directive, with its parameters. -/
theorem suffices_renderSimple (kind : Kind) {clause : Clause}
    (h : clause.countsLeft = false) (cursor : Cursor) :
    Run.Suffices extra (renderSimple registry kind clause cursor)
      (renderSimple registry kind clause (cursor.extend extra)) := by
  refine Run.suffices_orFail (suffices_params _ h _ cursor) ?_
  rintro ⟨values, next⟩
  simp only [alsoExtend]
  split
  · exact suffices_act _ _ _ _ _
  · exact .same (.stop _)

-- ============================================================ constructs

/-- An escape that looks at its parameters only. -/
theorem suffices_renderEscape (scope : List Construct) (depth : Nat)
    {clause : Clause} (h : clause.countsLeft = false)
    (hparams : clause.params.isEmpty = false) (cursor : Cursor) :
    Run.Suffices extra (renderEscape registry scope depth clause cursor)
      (renderEscape registry scope depth clause
        (cursor.extend extra)) := by
  cases scope with
  | nil => exact .same (.fail _)
  | cons inner scope =>
      apply Run.suffices_noting
      refine Run.suffices_orFail (suffices_params _ h _ cursor) ?_
      rintro ⟨values, next⟩
      simp only [alsoExtend, hparams, Bool.false_eq_true, if_false]
      cases escapeFires clause clause.params.length values with
      | error why => exact .same (.stop why)
      | ok fires =>
          cases fires with
          | true =>
              exact .same ⟨[], [], .escaped clause.modifiers.colon next⟩
          | false => exact .same (.idle next)

/-- A loop over a list of its own leaves the arguments as they are. -/
theorem suffices_toRun {passes : Passes} (h : passes.run.Catches)
    (position : Nat) (last : Cursor) :
    Run.Suffices extra (passes.toRun position fun _ => last)
      (passes.toRun position fun _ => last.extend extra) := by
  obtain ⟨count, text, events, ending⟩ := passes
  cases ending with
  | finished source => exact .same _
  | escaped => exact absurd rfl (h _ _)
  | stopped why => exact .same _

/-- An iteration over a list. -/
theorem suffices_renderIteration (body : Construct → Cursor → Run)
    (atLeastOnce : Bool) {clause : Clause}
    (h : clause.countsLeft = false)
    (hlist : clause.modifiers.atSign = false) (cursor : Cursor) :
    Run.Suffices extra
      (renderIteration registry body atLeastOnce clause cursor)
      (renderIteration registry body atLeastOnce clause
        (cursor.extend extra)) := by
  refine Run.suffices_orFail (suffices_params _ h _ cursor) ?_
  rintro ⟨values, next⟩
  simp only [alsoExtend]
  split
  · exact .same (.stop _)
  · next limit _ =>
    apply Run.suffices_noting
    simp only [hlist, Bool.false_eq_true, if_false]
    refine Run.suffices_orFail (suffices_take next _ _) ?_
    rintro ⟨argument, last⟩
    refine Run.suffices_orFail (Suffices.refl _) ?_
    intro items
    exact suffices_toRun (iterate_catches _ _ _ _ _) _ last

/-- A segment and the ones behind it. -/
theorem suffices_thenSegments {segment segment' : Run}
    {next : Cursor → SegmentRun} (h : Run.Suffices extra segment segment')
    (hnext : ∀ cursor, SegmentRun.Suffices extra (next cursor)
      (next (cursor.extend extra))) :
    SegmentRun.Suffices extra (segment.thenSegments next)
      (segment'.thenSegments next) := by
  cases h with
  | same =>
      obtain ⟨text, events, ending⟩ := segment
      cases ending with
      | escaped | stopped => exact .same _
      | finished cursor =>
          have hrest := hnext cursor
          simp only [Run.thenSegments, Run.extend, Run.endingWith,
            Ending.extend]
          generalize next cursor = rest at hrest
          generalize next (cursor.extend extra) = rest' at hrest
          cases hrest with
          | same => exact .same ⟨text :: rest.texts, _, rest.ending⟩
          | exhausted hending he =>
              refine .exhausted ?_ he _
              exact hending
  | exhausted hending he =>
      have hlaid : (segment.thenSegments next).ending = segment.ending := by
        rw [Run.thenSegments, hending]
      exact .exhausted (hlaid.trans hending) he _

/-- A justification whose segments do not see the end does not see it
either. -/
theorem suffices_renderJustification {segments : Cursor → SegmentRun}
    (hsegments : ∀ cursor, SegmentRun.Suffices extra (segments cursor)
      (segments (cursor.extend extra)))
    {clause : Clause} (h : clause.countsLeft = false) (cursor : Cursor) :
    Run.Suffices extra
      (renderJustification registry segments clause cursor)
      (renderJustification registry segments clause
        (cursor.extend extra)) := by
  refine Run.suffices_orFail (suffices_params _ h _ cursor) ?_
  rintro ⟨values, next⟩
  simp only [alsoExtend]
  split
  · have hlaid := hsegments next
    generalize segments next = laid at hlaid
    generalize segments (next.extend extra) = laid' at hlaid
    cases hlaid with
    | same =>
        apply Run.suffices_noting
        simp only [SegmentRun.extend]
        cases laid.ending with
        | stopped why => exact .same (.stop why)
        | finished last | escaped wholeLoop last =>
            exact suffices_drawField _ _ _ last
    | exhausted hending he =>
        simp only [hending]
        exact .exhausted rfl he List.nil_prefix
  · exact .same (.stop _)

-- ================================================================= trees

mutual

/-- A node that does not see the end of the arguments. -/
theorem renderNode_suffices (registry : Registry)
    (scope : List Construct) (extra : List Value) (node : Node)
    (h : node.seesEnd = false) (cursor : Cursor) :
    Run.Suffices extra (renderNode registry scope node cursor)
      (renderNode registry scope node (cursor.extend extra)) := by
  match node with
  | .literal t _ => exact .same (.emit t cursor)
  | .simple kind clause => exact suffices_renderSimple kind h cursor
  | .group items =>
      exact renderAll_suffices registry scope extra items h cursor
  | .escape depth clause =>
      obtain ⟨hcount, hparams⟩ := Bool.or_eq_false_iff.mp h
      exact suffices_renderEscape scope depth hcount hparams cursor
  | .iteration body atLeastOnce clause =>
      obtain ⟨hcount, hlist⟩ := Bool.or_eq_false_iff.mp h
      exact suffices_renderIteration _ atLeastOnce hcount hlist cursor
  | .justification segments clause =>
      obtain ⟨hcount, hsegments⟩ := Bool.or_eq_false_iff.mp h
      exact suffices_renderJustification
        (renderSegments_suffices registry _ extra segments hsegments)
        hcount cursor
termination_by structural node

/-- Nodes that do not see the end render the same with more arguments, or
ran out of them. By induction on the nodes, along with single nodes and
segments. -/
theorem renderAll_suffices (registry : Registry)
    (scope : List Construct) (extra : List Value) (nodes : List Node)
    (h : seesEnd nodes = false) (cursor : Cursor) :
    Run.Suffices extra (renderAll registry scope nodes cursor)
      (renderAll registry scope nodes (cursor.extend extra)) := by
  match nodes with
  | [] => exact .same (.idle cursor)
  | node :: rest =>
      obtain ⟨hnode, hrest⟩ := Bool.or_eq_false_iff.mp h
      exact Run.suffices_andThen
        (renderNode_suffices registry scope extra node hnode cursor)
        (renderAll_suffices registry scope extra rest hrest)
termination_by structural nodes

/-- The same for the segments of a justification. -/
theorem renderSegments_suffices (registry : Registry)
    (scope : List Construct) (extra : List Value)
    (segments : List (List Node)) (h : segmentsSeeEnd segments = false)
    (cursor : Cursor) :
    SegmentRun.Suffices extra
      (renderSegments registry scope segments cursor)
      (renderSegments registry scope segments (cursor.extend extra)) := by
  match segments with
  | [] => exact .same ⟨[], [], .finished cursor⟩
  | segment :: rest =>
      obtain ⟨hsegment, hrest⟩ := Bool.or_eq_false_iff.mp h
      exact suffices_thenSegments
        (renderAll_suffices registry scope extra segment hsegment cursor)
        (renderSegments_suffices registry scope extra rest hrest)
termination_by structural segments

end

/-- What is left behind a run is no part of its result. -/
theorem Run.result_extend (extra : List Value) (run : Run) :
    (run.extend extra).result = run.result := by
  obtain ⟨text, events, ending⟩ := run
  cases ending <;> rfl

namespace Run.Suffices

variable {run run' : Run}

/-- A run that did not run out of arguments has the same result with more
of them. -/
theorem result_eq (h : Run.Suffices extra run run')
    (henough : ∀ e, run.ending = .stopped (.error e) → ¬e.IsExhausted) :
    run'.result = run.result := by
  cases h with
  | same => exact Run.result_extend extra run
  | exhausted hending he => exact absurd he (henough _ hending)

/-- With more arguments a run puts out at least what it did. -/
theorem text_prefix (h : Run.Suffices extra run run') :
    run.text <+: run'.text := by
  cases h with
  | same => exact List.prefix_rfl
  | exhausted _ _ htext => exact htext

end Run.Suffices

/-- Arguments left over do not show. A template that does not see the end
of its arguments comes to the same with more of them behind: to the same
text, and to the same failure, unless it runs out of arguments. The text
it comes to with more starts with what it has put out when it fails. -/
theorem render_append_arguments (registry : Registry)
    {tree : List Node} (h : seesEnd tree = false)
    (arguments extra : List Value) :
    let short := (render registry tree arguments).result
    let long := (render registry tree (arguments ++ extra)).result
    (∀ t, short = .ok t → long = .ok t)
      ∧ (∀ failure, short = .error failure →
        (∀ e soFar, failure = .render e soFar → ¬e.IsExhausted) →
        long = .error failure)
      ∧ ∀ e soFar, short = .error (.render e soFar) →
        ∀ t, long = .ok t → soFar <+: t := by
  have hruns : Run.Suffices extra (render registry tree arguments)
      (render registry tree (arguments ++ extra)) :=
    renderAll_suffices registry [] extra tree h (.ofList arguments)
  refine ⟨?_, ?_, ?_⟩
  · intro t ht
    refine (hruns.result_eq ?_).trans ht
    intro e hstopped
    obtain ⟨-, cursor, hfinished⟩ := Run.result_eq_ok_iff.mp ht
    cases hstopped.symm.trans hfinished
  · intro failure hfailure hother
    refine (hruns.result_eq ?_).trans hfailure
    intro e hstopped
    have he := Run.result_eq_error_iff.mpr ⟨rfl, hstopped⟩
    exact hother e _ (Except.error.inj (hfailure.symm.trans he))
  · intro e soFar he t ht
    obtain ⟨rfl, -⟩ := Run.result_eq_error_iff.mp he
    obtain ⟨rfl, -⟩ := Run.result_eq_ok_iff.mp ht
    exact hruns.text_prefix

/-- A loop that asks about its own sublists, and behind it an argument to
skip: with too few, enough and too many arguments. -/
theorem render_append_arguments_skipped :
    let tree : List Node :=
      [ .literal ['x'] 0,
        .iteration
          [ .simple .skip ⟨[], {}, 4⟩, .literal ['y'] 6,
            .escape 1 ⟨[], {}, 7⟩,
            .simple .skip ⟨[⟨.remaining, 10⟩], {}, 9⟩ ]
          false ⟨[], ⟨true, false⟩, 1⟩,
        .literal ['z'] 14, .simple .skip ⟨[], {}, 15⟩,
        .literal ['!'] 17 ]
    let arguments : List Value :=
      [.list [.list [.int 1], .list [.int 1, .int 2, .int 3]]]
    let result (arguments : List Value) : Except Failure Text :=
      (render .standard tree arguments).result
    seesEnd tree = false
      ∧ result arguments = .error
        (.render ⟨.exhausted 2 1, some 15, Kind.skip.name⟩ (word "xyyz"))
      ∧ result (arguments ++ [.int 4]) = .ok (word "xyyz!")
      ∧ word "xyyz" <+: word "xyyz!"
      ∧ result (arguments ++ [.int 4] ++ [.int 5])
        = .ok (word "xyyz!") := by
  intro tree arguments result
  have hshort : result arguments = .error
      (.render ⟨.exhausted 2 1, some 15, Kind.skip.name⟩
        (word "xyyz")) := by
    with_unfolding_all rfl
  have hlong : result (arguments ++ [.int 4]) = .ok (word "xyyz!") := by
    with_unfolding_all rfl
  obtain ⟨-, -, hprefix⟩ :=
    render_append_arguments .standard (show seesEnd tree = false from rfl)
      arguments [.int 4]
  obtain ⟨hsame, -, -⟩ :=
    render_append_arguments .standard (show seesEnd tree = false from rfl)
      (arguments ++ [.int 4]) [.int 5]
  exact ⟨rfl, hshort, hlong, hprefix _ _ hshort _ hlong,
    hsame _ hlong⟩

end TildeFormat
