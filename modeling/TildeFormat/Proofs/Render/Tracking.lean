/-
Two renders side by side: the same nodes at other places, against cursors
with the same arguments ahead. They do the same, step by step. They put
out the same texts, end the same way, and where one is given up the other
is too, with an error of the same family and directive at the place the
node was moved to.

What the two cursors have in common besides the arguments ahead of them
is left open: any relation will do that moving both cursors on keeps. So
one induction over the renderer serves every relation; inside a list of
their own the cursors are simply the same.
-/
import TildeFormat.Proofs.Render.Catching
import TildeFormat.Proofs.Template.Moved
import TildeFormat.Render

namespace TildeFormat

-- =========================================================== relations

/-- A relation between cursors with the same arguments ahead, kept when
both take one. -/
structure Tracking (R : Cursor → Cursor → Prop) : Prop where
  rest : ∀ {c d}, R c d → d.rest = c.rest
  step : ∀ {m n v rest}, R ⟨m, v :: rest⟩ ⟨n, v :: rest⟩ →
    R ⟨m + 1, rest⟩ ⟨n + 1, rest⟩

/-- Cursors that are the same stay the same. -/
theorem tracking_eq : Tracking Eq where
  rest h := by rw [h]
  step h := by cases h; rfl

/-- The same kind of error, its place mapped. -/
structure RenderError.Moved (f : Nat → Nat) (e e' : RenderError) :
    Prop where
  family : e'.cause.family = e.cause.family
  directive : e'.directive = e.directive
  position : e'.position = e.position.map f

/-- Endings of the same kind. -/
inductive Ending.Tracks (f : Nat → Nat) (R : Cursor → Cursor → Prop) :
    Ending → Ending → Prop
  | finished {c d : Cursor} (h : R c d) :
      Tracks f R (.finished c) (.finished d)
  | escaped {wholeLoop : Bool} {c d : Cursor} (h : R c d) :
      Tracks f R (.escaped wholeLoop c) (.escaped wholeLoop d)
  | error {e e' : RenderError} (h : e.Moved f e') :
      Tracks f R (.stopped (.error e)) (.stopped (.error e'))
  | fault (fault : Fault) :
      Tracks f R (.stopped (.fault fault)) (.stopped (.fault fault))

/-- Runs with the same text and endings of the same kind. -/
structure Run.Tracks (f : Nat → Nat) (R : Cursor → Cursor → Prop)
    (run run' : Run) : Prop where
  text : run'.text = run.text
  ending : run.ending.Tracks f R run'.ending

/-- Attempts that both succeed, with related results, or fail with the
same kind of error. -/
inductive Attempt {α : Type} (f : Nat → Nat) (S : α → α → Prop) :
    Except RenderError α → Except RenderError α → Prop
  | ok {a b : α} (h : S a b) : Attempt f S (.ok a) (.ok b)
  | error {e e' : RenderError} (h : e.Moved f e') :
      Attempt f S (.error e) (.error e')

/-- The same result, with related cursors behind it. -/
def Along {α : Type} (R : Cursor → Cursor → Prop) (a b : α × Cursor) :
    Prop :=
  b.1 = a.1 ∧ R a.2 b.2

variable {f : Nat → Nat} {R : Cursor → Cursor → Prop}
  {registry : Registry}

/-- An error that is blamed on a directive moves with it. -/
theorem RenderError.Moved.blamed (cause : RenderCause) (position : Nat)
    (directive : Text) :
    RenderError.Moved f ⟨cause, some position, directive⟩
      ⟨cause, some (f position), directive⟩ :=
  ⟨rfl, rfl, rfl⟩

namespace Run

theorem tracks_idle {c d : Cursor} (h : R c d) :
    Run.Tracks f R (idle c) (idle d) := ⟨rfl, .finished h⟩

theorem tracks_emit (t : Text) {c d : Cursor} (h : R c d) :
    Run.Tracks f R (emit t c) (emit t d) := ⟨rfl, .finished h⟩

theorem tracks_fail {e e' : RenderError} (h : e.Moved f e') :
    Run.Tracks f R (fail e) (fail e') := ⟨rfl, .error h⟩

theorem tracks_fault (fault : Fault) :
    Run.Tracks f R (stop (.fault fault)) (stop (.fault fault)) :=
  ⟨rfl, .fault fault⟩

/-- What is noted on the side does not show. -/
theorem tracks_noting {run run' : Run} (h : Run.Tracks f R run run')
    (events events' : List Event) :
    Run.Tracks f R (run.noting events) (run'.noting events') :=
  ⟨h.text, h.ending⟩

/-- The same text goes in front of both runs. -/
theorem tracks_behind {run run' : Run} (h : Run.Tracks f R run run')
    (t : Text) (events events' : List Event) :
    Run.Tracks f R (run.behind t events) (run'.behind t events') :=
  ⟨congrArg (t ++ ·) h.text, h.ending⟩

/-- Where the first runs agree and so do the ones behind them, both pairs
agree: the second run starts only where the first one finished. -/
theorem tracks_andThen {run run' : Run} {next next' : Cursor → Run}
    (h : Run.Tracks f R run run')
    (hnext : ∀ {c d}, R c d → Run.Tracks f R (next c) (next' d)) :
    Run.Tracks f R (run.andThen next) (run'.andThen next') := by
  obtain ⟨text, events, ending⟩ := run
  obtain ⟨text', events', ending'⟩ := run'
  obtain ⟨htext, hending⟩ := h
  cases htext
  cases hending with
  | finished hcursor => exact tracks_behind (hnext hcursor) _ _ _
  | escaped hcursor => exact ⟨rfl, .escaped hcursor⟩
  | error he => exact ⟨rfl, .error he⟩
  | fault fault => exact ⟨rfl, .fault fault⟩

/-- An attempt that fails in both ends both runs with its errors. -/
theorem tracks_orFail {α : Type} {S : α → α → Prop}
    {attempt attempt' : Except RenderError α} {next next' : α → Run}
    (h : Attempt f S attempt attempt')
    (hnext : ∀ {a b}, S a b → Run.Tracks f R (next a) (next' b)) :
    Run.Tracks f R (orFail attempt next) (orFail attempt' next') := by
  cases h with
  | ok h => exact hnext h
  | error he => exact tracks_fail he

end Run

/-- Two attempts in a row agree when each of them does. -/
theorem Attempt.bind {α β : Type} {S : α → α → Prop} {T : β → β → Prop}
    {attempt attempt' : Except RenderError α}
    {next next' : α → Except RenderError β}
    (h : Attempt f S attempt attempt')
    (hnext : ∀ {a b}, S a b → Attempt f T (next a) (next' b)) :
    Attempt f T (attempt >>= next) (attempt' >>= next') := by
  cases h with
  | ok h => exact hnext h
  | error he => exact .error he

-- =========================================================== arguments

/-- Related cursors run out of arguments together. -/
theorem Tracking.exhausted (hR : Tracking R) {c d : Cursor}
    (h : R c d) : d.exhausted = c.exhausted := by
  rw [Cursor.exhausted, hR.rest h]
  rfl

/-- Related cursors have equally many arguments ahead. -/
theorem Tracking.remaining (hR : Tracking R) {c d : Cursor}
    (h : R c d) : d.remaining = c.remaining := by
  rw [Cursor.remaining, hR.rest h]
  rfl

/-- Related cursors hand out the same argument, or both have none. -/
theorem Tracking.take (hR : Tracking R) {c d : Cursor} (h : R c d)
    (directive : Text) (position : Nat) :
    Attempt f (Along R) (c.take directive position)
      (d.take directive (f position)) := by
  obtain ⟨m, rest⟩ := c
  obtain ⟨n, rest'⟩ := d
  cases hR.rest h
  cases rest with
  | nil => exact .error ⟨rfl, rfl, rfl⟩
  | cons v rest => exact .ok ⟨rfl, hR.step h⟩

/-- The same for an argument that must be an integer. -/
theorem Tracking.takeInteger (hR : Tracking R) {c d : Cursor}
    (h : R c d) (directive : Text) (position : Nat) :
    Attempt f (Along R) (c.takeInteger directive position)
      (d.takeInteger directive (f position)) := by
  refine (hR.take h directive position).bind ?_
  rintro ⟨argument, next⟩ ⟨_, next'⟩ ⟨rfl, hnext⟩
  simp only
  split
  · exact .ok ⟨rfl, hnext⟩
  · exact .error (.blamed _ _ _)

/-- Arguments are skipped one by one, so as many on both sides. -/
theorem Tracking.skip (hR : Tracking R) {c d : Cursor} (h : R c d)
    (directive : Text) (position count : Nat) :
    Attempt f R (c.skip directive position count)
      (d.skip directive (f position) count) := by
  induction count generalizing c d with
  | zero => exact .ok h
  | succ count ih =>
      refine (hR.take h directive position).bind ?_
      rintro ⟨_, next⟩ ⟨_, next'⟩ ⟨-, hnext⟩
      exact ih hnext

/-- Whether a value suits a slot does not depend on the place. -/
theorem attempt_resolve (slot : ParamSpec) (directive : Text)
    (position : Nat) (v : Value) (shown : Text) :
    Attempt f Eq (slot.resolve directive position v shown)
      (slot.resolve directive (f position) v shown) := by
  unfold ParamSpec.resolve
  split
  · exact .error (.blamed _ _ _)
  · split
    · exact .error (.blamed _ _ _)
    · split
      · exact .error (.blamed _ _ _)
      · exact .ok rfl

/-- A parameter takes what it needs from either cursor alike. -/
theorem Tracking.resolveParam (hR : Tracking R) {c d : Cursor}
    (h : R c d) (directive : Text) (param? : Option Param)
    (slot : ParamSpec) :
    Attempt f (Along R) (resolveParam directive param? slot c)
      (resolveParam directive (param?.map (Param.moved f)) slot d) := by
  cases param? with
  | none => exact .ok ⟨rfl, h⟩
  | some param =>
      obtain ⟨source, position⟩ := param
      cases source with
      | omitted | integer | character => exact .ok ⟨rfl, h⟩
      | remaining =>
          show Attempt f _ _ (TildeFormat.resolveParam directive
            (some ⟨.remaining, f position⟩) slot d)
          simp only [TildeFormat.resolveParam, hR.remaining h]
          refine (attempt_resolve slot directive position _ _).bind ?_
          rintro value _ rfl
          exact .ok ⟨rfl, h⟩
      | nextArgument =>
          refine (hR.take h directive position).bind ?_
          rintro ⟨argument, next⟩ ⟨_, next'⟩ ⟨rfl, hnext⟩
          simp only
          split
          · exact .ok ⟨rfl, hnext⟩
          · refine (attempt_resolve slot directive position _ _).bind ?_
            rintro value _ rfl
            exact .ok ⟨rfl, hnext⟩

/-- And so do all parameters of a directive, from left to right. -/
theorem Tracking.resolveParams (hR : Tracking R) {c d : Cursor}
    (h : R c d) (directive : Text) (params : List Param)
    (slots : List ParamSpec) :
    Attempt f (Along R) (resolveParams directive params slots c)
      (resolveParams directive (params.map (Param.moved f)) slots d) := by
  induction slots generalizing params c d with
  | nil => exact .ok ⟨rfl, h⟩
  | cons slot slots ih =>
      rw [TildeFormat.resolveParams, TildeFormat.resolveParams,
        List.head?_map, ← List.map_tail]
      refine (hR.resolveParam h directive params.head? slot).bind ?_
      rintro ⟨value, next⟩ ⟨_, next'⟩ ⟨rfl, hnext⟩
      refine (ih hnext params.tail).bind ?_
      rintro ⟨values, last⟩ ⟨_, last'⟩ ⟨rfl, hlast⟩
      exact .ok ⟨rfl, hlast⟩

-- ============================================================= actions

/-- A field is drawn, or refused, the same at both places. -/
theorem Run.tracks_drawField (directive : Text) (position : Nat)
    (field : Field) {c d : Cursor} (h : R c d) :
    Run.Tracks f R (drawField directive position field c)
      (drawField directive (f position) field d) := by
  apply tracks_noting
  cases field.draw with
  | ok t => exact tracks_emit t h
  | error fault =>
      cases fault with
      | fixed fault => exact tracks_fail (.blamed _ _ _)
      | _ => exact tracks_fault _

/-- The four directives that put out an argument take one and draw one
field. -/
theorem Tracking.renderText (hR : Tracking R) {c d : Cursor} (h : R c d)
    (form : Form) (directive : Text) (clause : Clause)
    (values : List ParamValue) :
    Run.Tracks f R (renderText form directive clause values c)
      (renderText form directive (clause.moved f) values d) := by
  unfold TildeFormat.renderText
  split
  · refine Run.tracks_orFail (hR.take h directive clause.position) ?_
    rintro ⟨argument, next⟩ ⟨_, next'⟩ ⟨rfl, hnext⟩
    exact Run.tracks_drawField _ _ _ hnext
  · exact Run.tracks_fault _

theorem Tracking.renderDecimal (hR : Tracking R) {c d : Cursor}
    (h : R c d) (directive : Text) (clause : Clause)
    (values : List ParamValue) :
    Run.Tracks f R (renderDecimal directive clause values c)
      (renderDecimal directive (clause.moved f) values d) := by
  unfold TildeFormat.renderDecimal
  split
  · refine Run.tracks_orFail
      (hR.takeInteger h directive clause.position) ?_
    rintro ⟨number, next⟩ ⟨_, next'⟩ ⟨rfl, hnext⟩
    exact Run.tracks_drawField _ _ _ hnext
  · exact Run.tracks_fault _

theorem Tracking.renderFixed (hR : Tracking R) {c d : Cursor}
    (h : R c d) (directive : Text) (clause : Clause)
    (values : List ParamValue) :
    Run.Tracks f R (renderFixed directive clause values c)
      (renderFixed directive (clause.moved f) values d) := by
  unfold TildeFormat.renderFixed
  split
  · split
    · refine Run.tracks_orFail (hR.take h directive clause.position) ?_
      rintro ⟨argument, next⟩ ⟨_, next'⟩ ⟨rfl, hnext⟩
      apply Run.tracks_noting
      simp only
      split
      · exact Run.tracks_fault _
      · exact Run.tracks_fail (.blamed _ _ _)
      · exact Run.tracks_drawField _ _ _ hnext
    · exact Run.tracks_fault _
  · exact Run.tracks_fault _

theorem Tracking.renderSkip (hR : Tracking R) {c d : Cursor} (h : R c d)
    (directive : Text) (clause : Clause) (values : List ParamValue) :
    Run.Tracks f R (renderSkip directive clause values c)
      (renderSkip directive (clause.moved f) values d) := by
  unfold TildeFormat.renderSkip
  split
  · apply Run.tracks_noting
    exact Run.tracks_orFail (hR.skip h directive clause.position _)
      Run.tracks_idle
  · exact Run.tracks_fault _

theorem Run.tracks_renderCopies {c d : Cursor} (h : R c d)
    (char : Character) (directive : Text) (clause : Clause)
    (values : List ParamValue) :
    Run.Tracks f R (renderCopies char directive clause values c)
      (renderCopies char directive (clause.moved f) values d) := by
  unfold renderCopies
  split
  · exact tracks_drawField _ _ _ h
  · exact tracks_fault _

/-- Each built-in action keeps the relation. -/
theorem Tracking.act (hR : Tracking R) {c d : Cursor} (h : R c d)
    (kind : Kind) (directive : Text) (clause : Clause)
    (values : List ParamValue) :
    Run.Tracks f R (kind.act directive clause values c)
      (kind.act directive (clause.moved f) values d) := by
  cases kind with
  | human | machine => exact hR.renderText h _ directive clause values
  | decimal => exact hR.renderDecimal h directive clause values
  | fixed => exact hR.renderFixed h directive clause values
  | skip => exact hR.renderSkip h directive clause values
  | newline | tilde =>
      exact Run.tracks_renderCopies h _ directive clause values

/-- A simple directive resolves its parameters and then acts on them. -/
theorem Tracking.renderSimple (hR : Tracking R) {c d : Cursor}
    (h : R c d) (kind : Kind) (clause : Clause) :
    Run.Tracks f R (renderSimple registry kind clause c)
      (renderSimple registry kind (clause.moved f) d) := by
  refine Run.tracks_orFail (hR.resolveParams h _ clause.params _) ?_
  rintro ⟨values, next⟩ ⟨_, next'⟩ ⟨rfl, hnext⟩
  simp only
  split
  · exact hR.act hnext _ _ _ _
  · exact Run.tracks_fault _

-- ============================================================= escapes

/-- What an escape looks at is the same for related cursors. -/
theorem Tracking.nothingLeft (hR : Tracking R) {c d : Cursor}
    (h : R c d) (inner : Construct) (wholeLoop : Bool) :
    nothingLeft inner wholeLoop d = nothingLeft inner wholeLoop c := by
  unfold TildeFormat.nothingLeft
  rw [hR.exhausted h]

/-- Tests with the same outcome, or given up in the same way. -/
inductive Verdict (f : Nat → Nat) :
    Except Stop Bool → Except Stop Bool → Prop
  | ok (fires : Bool) : Verdict f (.ok fires) (.ok fires)
  | error {e e' : RenderError} (h : e.Moved f e') :
      Verdict f (.error (.error e)) (.error (.error e'))
  | fault (fault : Fault) :
      Verdict f (.error (.fault fault)) (.error (.fault fault))

/-- An escape with parameters decides the same at both places. -/
theorem verdict_escapeFires (clause : Clause) (count : Nat)
    (values : List ParamValue) :
    Verdict f (escapeFires clause count values)
      (escapeFires (clause.moved f) count values) := by
  unfold escapeFires
  split
  · exact .ok _
  · exact .ok _
  · split
    · exact .ok _
    · exact .error (.blamed _ _ _)
  · exact .fault _

/-- An escape leaves, stays or fails by its verdict. -/
theorem Verdict.tracks (wholeLoop : Bool) {c d : Cursor}
    (hcursor : R c d) {test test' : Except Stop Bool} :
    Verdict f test test' → Run.Tracks f R
      (match test with
        | .error why => .stop why
        | .ok true => ⟨[], [], .escaped wholeLoop c⟩
        | .ok false => .idle c)
      (match test' with
        | .error why => .stop why
        | .ok true => ⟨[], [], .escaped wholeLoop d⟩
        | .ok false => .idle d) := by
  intro h
  cases h with
  | ok fires =>
      cases fires with
      | true => exact ⟨rfl, .escaped hcursor⟩
      | false => exact Run.tracks_idle hcursor
  | error he => exact Run.tracks_fail he
  | fault fault => exact Run.tracks_fault fault

/-- An escape directive, without parameters or with them. -/
theorem Tracking.renderEscape (hR : Tracking R) {c d : Cursor}
    (h : R c d) (scope : List Construct) (depth : Nat)
    (clause : Clause) :
    Run.Tracks f R (renderEscape registry scope depth clause c)
      (renderEscape registry scope depth (clause.moved f) d) := by
  cases scope with
  | nil => exact Run.tracks_fail (.blamed _ _ _)
  | cons inner scope =>
      apply Run.tracks_noting
      refine Run.tracks_orFail (hR.resolveParams h _ clause.params _) ?_
      rintro ⟨values, next⟩ ⟨_, next'⟩ ⟨rfl, hnext⟩
      simp only [hR.nothingLeft hnext, Clause.moved, List.isEmpty_map,
        List.length_map]
      apply Verdict.tracks _ hnext
      split
      · exact .ok _
      · exact verdict_escapeFires clause _ _

-- ========================================================== iterations

/-- A list is opened, or refused, the same at both places. -/
theorem attempt_openList (position : Nat) (v : Value) :
    Attempt f Eq (openList position v) (openList (f position) v) := by
  unfold openList
  split
  · exact .ok rfl
  · exact .error (.blamed _ _ _)

/-- Passes over related sources, with bodies that do the same. -/
theorem Tracking.overElements (hR : Tracking R)
    {body body' : Cursor → Run} {stuck stuck' : RenderError}
    (hbody : ∀ {c d}, R c d → Run.Tracks f R (body c) (body' d))
    (hstuck : stuck.Moved f stuck') (forced : Bool) (limit : Option Nat)
    {c d : Cursor} (h : R c d) :
    Run.Tracks f R (overElements body stuck forced limit c).run
      (overElements body' stuck' forced limit d).run := by
  have hnone {forced : Bool} {limit : Option Nat} {c d : Cursor}
      (h : R c d) : NoPass forced limit d ↔ NoPass forced limit c := by
    rw [NoPass, NoPass, hR.exhausted h]
  induction forced, limit, c using overElements_induction body
    generalizing d with
  | h forced limit c ih =>
      by_cases hstop : NoPass forced limit c
      · rw [overElements_none hstop,
          overElements_none ((hnone h).mpr hstop)]
        exact Run.tracks_idle h
      · rw [overElements_pass hstop,
          overElements_pass (mt (hnone h).mp hstop)]
        have hpass := hbody h
        have hending := hpass.ending
        generalize hc : (body c).ending = ending at hending
        generalize hd : (body' d).ending = ending' at hending
        cases hending with
        | error he =>
            exact ⟨hpass.text, by rw [hc, hd]; exact .error he⟩
        | fault fault =>
            exact ⟨hpass.text, by rw [hc, hd]; exact .fault fault⟩
        | escaped hnext => exact ⟨hpass.text, .finished hnext⟩
        | @finished next next' hnext =>
            simp only [hR.exhausted hnext, hR.remaining hnext,
              hR.remaining h]
            split
            · exact ⟨hpass.text, by rw [hc, hd]; exact .finished hnext⟩
            · next hmore =>
              split
              · exact ⟨hpass.text, .error hstuck⟩
              · next hgoes =>
                rw [Passes.after, Passes.after, hpass.text]
                apply Run.tracks_behind
                refine ih next hstop hc (Bool.eq_false_iff.mpr hmore) ?_
                  hnext
                intro hunlimited
                exact Decidable.not_not.mp fun hstays =>
                  hgoes ⟨hunlimited, hstays⟩

/-- Passes over the same sublists, with bodies that do the same. -/
theorem Tracking.overSublists (hR : Tracking R)
    {body body' : Nat → Cursor → Run}
    {open? open?' : Value → Except RenderError (List Value)}
    (hbody : ∀ left items, Run.Tracks f Eq (body left (.ofList items))
      (body' left (.ofList items)))
    (hopen : ∀ v, Attempt f Eq (open? v) (open?' v)) (forced : Bool)
    (limit : Option Nat) {m n : Nat} {items : List Value}
    (h : R ⟨m, items⟩ ⟨n, items⟩) :
    Run.Tracks f R (overSublists body open? forced limit m items).run
      (overSublists body' open?' forced limit n items).run := by
  induction items generalizing forced limit m n with
  | nil =>
      rw [TildeFormat.overSublists, TildeFormat.overSublists]
      split
      · exact Run.tracks_idle h
      · have hpass := hbody 0 []
        have hending := hpass.ending
        simp only
        generalize hc : (body 0 (.ofList [])).ending = ending at hending
        generalize hd : (body' 0 (.ofList [])).ending = ending' at hending
        cases hending with
        | error he =>
            exact ⟨hpass.text, by rw [hc, hd]; exact .error he⟩
        | fault fault =>
            exact ⟨hpass.text, by rw [hc, hd]; exact .fault fault⟩
        | escaped | finished => exact ⟨hpass.text, .finished h⟩
  | cons v rest ih =>
      rw [TildeFormat.overSublists, TildeFormat.overSublists]
      split
      · exact Run.tracks_idle h
      · have hv := hopen v
        generalize open? v = opened at hv
        generalize open?' v = opened' at hv
        cases hv with
        | error he => exact Run.tracks_fail he
        | @ok items _ heq =>
            cases heq
            have hpass := hbody rest.length items
            have hending := hpass.ending
            have hrest : Run.Tracks f R
                (Passes.after (body rest.length (.ofList items))
                  (TildeFormat.overSublists body open? false
                    (limit.map (· - 1)) (m + 1) rest)).run
                (Passes.after (body' rest.length (.ofList items))
                  (TildeFormat.overSublists body' open?' false
                    (limit.map (· - 1)) (n + 1) rest)).run := by
              rw [Passes.after, Passes.after, hpass.text]
              exact Run.tracks_behind (ih false _ (hR.step h)) _ _ _
            simp only
            generalize hc : (body rest.length (.ofList items)).ending
              = ending at hending
            generalize hd : (body' rest.length (.ofList items)).ending
              = ending' at hending
            cases hending with
            | error he =>
                exact ⟨hpass.text, by rw [hc, hd]; exact .error he⟩
            | fault fault =>
                exact ⟨hpass.text, by rw [hc, hd]; exact .fault fault⟩
            | @escaped wholeLoop =>
                cases wholeLoop with
                | true => exact ⟨hpass.text, .finished (hR.step h)⟩
                | false => exact hrest
            | finished => exact hrest

/-- An iteration, once its limit is known. Its passes run on the cursor
itself, or each on a list of its own, where the cursors are the same. -/
theorem Tracking.iterate (hR : Tracking R)
    {body body' : Construct → Cursor → Run}
    (hown : ∀ construct {c d}, R c d →
      Run.Tracks f R (body construct c) (body' construct d))
    (hfresh : ∀ construct items, Run.Tracks f Eq
      (body construct (.ofList items)) (body' construct (.ofList items)))
    (atLeastOnce : Bool) (clause : Clause) (limit : Option Int)
    {c d : Cursor} (h : R c d) :
    Run.Tracks f R (iterate body atLeastOnce clause limit c).run
      (iterate body' atLeastOnce (clause.moved f) limit d).run := by
  unfold TildeFormat.iterate
  have hcolon' : (clause.moved f).modifiers.colon
      = clause.modifiers.colon := rfl
  by_cases hcolon : clause.modifiers.colon = true
  · rw [if_pos hcolon, if_pos (hcolon'.trans hcolon)]
    obtain ⟨m, items⟩ := c
    obtain ⟨n, items'⟩ := d
    cases hR.rest h
    exact hR.overSublists (fun left => hfresh (.sublists left))
      (attempt_openList clause.position) _ _ h
  · rw [if_neg hcolon, if_neg (hcolon' ▸ hcolon)]
    exact hR.overElements (hown .elements) (.blamed _ _ _) _ _ h

/-- A loop as a part of what is around it, when where it goes on is
related. -/
theorem Passes.tracks_toRun {S : Cursor → Cursor → Prop}
    {passes passes' : Passes} {resume resume' : Cursor → Cursor}
    (h : Run.Tracks f S passes.run passes'.run)
    (hcatches : passes.run.Catches) (position : Nat)
    (hresume : ∀ c d, S c d → R (resume c) (resume' d)) :
    Run.Tracks f R (passes.toRun position resume)
      (passes'.toRun (f position) resume') := by
  obtain ⟨count, text, events, ending⟩ := passes
  obtain ⟨count', text', events', ending'⟩ := passes'
  obtain ⟨htext, hending⟩ := h
  cases htext
  cases hending with
  | finished hcursor => exact ⟨rfl, .finished (hresume _ _ hcursor)⟩
  | escaped => exact absurd rfl (hcatches _ _)
  | error he => exact ⟨rfl, .error he⟩
  | fault fault => exact ⟨rfl, .fault fault⟩

/-- A limit that cannot be told is a fault, and no error. -/
theorem passLimit?_error {values : List ParamValue} {why : Stop}
    (h : passLimit? values = .error why) : ∃ fault, why = .fault fault := by
  unfold passLimit? at h
  split at h <;> cases h
  exact ⟨_, rfl⟩

/-- An iteration: its limit is resolved first, then it runs. -/
theorem Tracking.renderIteration (hR : Tracking R)
    {body body' : Construct → Cursor → Run}
    (hown : ∀ construct {c d}, R c d →
      Run.Tracks f R (body construct c) (body' construct d))
    (hfresh : ∀ construct {c d}, c = d →
      Run.Tracks f Eq (body construct c) (body' construct d))
    (atLeastOnce : Bool) (clause : Clause) {c d : Cursor} (h : R c d) :
    Run.Tracks f R (renderIteration registry body atLeastOnce clause c)
      (renderIteration registry body' atLeastOnce (clause.moved f) d) := by
  refine Run.tracks_orFail (hR.resolveParams h _ clause.params _) ?_
  rintro ⟨values, next⟩ ⟨_, next'⟩ ⟨rfl, hnext⟩
  simp only
  split
  · next why hwhy =>
    obtain ⟨fault, rfl⟩ := passLimit?_error hwhy
    exact Run.tracks_fault fault
  · next limit _ =>
    apply Run.tracks_noting
    have hat' : (clause.moved f).modifiers.atSign
        = clause.modifiers.atSign := rfl
    by_cases hat : clause.modifiers.atSign = true
    · rw [if_pos hat, if_pos (hat'.trans hat)]
      have hloop := hR.iterate hown (fun construct _ => hfresh construct rfl)
        atLeastOnce clause limit hnext
      exact Passes.tracks_toRun hloop (iterate_catches _ _ _ _ _) _
        fun _ _ hcursor => hcursor
    · rw [if_neg hat, if_neg (hat' ▸ hat)]
      refine Run.tracks_orFail (hR.take hnext _ clause.position) ?_
      rintro ⟨argument, last⟩ ⟨_, last'⟩ ⟨rfl, hlast⟩
      refine Run.tracks_orFail (attempt_openList clause.position _) ?_
      rintro items _ rfl
      have hloop := tracking_eq.iterate hfresh
        (fun construct _ => hfresh construct rfl) atLeastOnce clause limit
        (Eq.refl (Cursor.ofList items))
      exact Passes.tracks_toRun hloop (iterate_catches _ _ _ _ _) _
        fun _ _ _ => hlast

-- ====================================================== justifications

/-- Segments with the same texts and endings of the same kind. -/
structure SegmentRun.Tracks (f : Nat → Nat) (R : Cursor → Cursor → Prop)
    (laid laid' : SegmentRun) : Prop where
  texts : laid'.texts = laid.texts
  ending : laid.ending.Tracks f R laid'.ending

/-- A segment and the ones behind it. -/
theorem Run.tracks_thenSegments {segment segment' : Run}
    {next next' : Cursor → SegmentRun}
    (h : Run.Tracks f R segment segment')
    (hnext : ∀ {c d}, R c d → SegmentRun.Tracks f R (next c) (next' d)) :
    SegmentRun.Tracks f R (segment.thenSegments next)
      (segment'.thenSegments next') := by
  obtain ⟨text, events, ending⟩ := segment
  obtain ⟨text', events', ending'⟩ := segment'
  obtain ⟨htext, hending⟩ := h
  cases htext
  cases hending with
  | finished hcursor =>
      obtain ⟨htexts, hending⟩ := hnext hcursor
      exact ⟨congrArg (text :: ·) htexts, hending⟩
  | escaped hcursor => exact ⟨rfl, .escaped hcursor⟩
  | error he => exact ⟨rfl, .error he⟩
  | fault fault => exact ⟨rfl, .fault fault⟩

/-- A justification: its segments are rendered and then laid out in one
field. -/
theorem Tracking.renderJustification (hR : Tracking R)
    {segments segments' : Cursor → SegmentRun}
    (hsegments : ∀ {c d}, R c d →
      SegmentRun.Tracks f R (segments c) (segments' d))
    (clause : Clause) {c d : Cursor} (h : R c d) :
    Run.Tracks f R (renderJustification registry segments clause c)
      (renderJustification registry segments' (clause.moved f) d) := by
  refine Run.tracks_orFail (hR.resolveParams h _ clause.params _) ?_
  rintro ⟨values, next⟩ ⟨_, next'⟩ ⟨rfl, hnext⟩
  simp only
  split
  · apply Run.tracks_noting
    obtain ⟨htexts, hending⟩ := hsegments hnext
    rw [htexts]
    generalize (segments next).ending = ending at hending
    generalize (segments' next').ending = ending' at hending
    cases hending with
    | finished hlast | escaped hlast =>
        exact Run.tracks_drawField _ _ _ hlast
    | error he => exact Run.tracks_fail he
    | fault fault => exact Run.tracks_fault fault
  · exact Run.tracks_fault _

-- =============================================================== trees

mutual

/-- A node that is moved does what it did. -/
theorem Tracking.renderNode {R : Cursor → Cursor → Prop}
    (hR : Tracking R) (scope : List Construct) {node : Node}
    {c d : Cursor} (h : R c d) :
    Run.Tracks f R (renderNode registry scope node c)
      (renderNode registry scope (node.moved f) d) := by
  match node with
  | .literal t _ => exact Run.tracks_emit t h
  | .simple kind clause => exact hR.renderSimple h kind clause
  | .escape depth clause => exact hR.renderEscape h scope depth clause
  | .group items => exact hR.renderAll scope h
  | .iteration body atLeastOnce clause =>
      exact hR.renderIteration
        (fun construct _ _ => hR.renderAll (construct :: scope))
        (fun construct _ _ => tracking_eq.renderAll (construct :: scope))
        atLeastOnce clause h
  | .justification segments clause =>
      exact hR.renderJustification (hR.renderSegments _) clause h
termination_by structural node

/-- Nodes that are moved do what they did. -/
theorem Tracking.renderAll {R : Cursor → Cursor → Prop}
    (hR : Tracking R) (scope : List Construct) {nodes : List Node}
    {c d : Cursor} (h : R c d) :
    Run.Tracks f R (renderAll registry scope nodes c)
      (renderAll registry scope (moved f nodes) d) := by
  match nodes with
  | [] => exact Run.tracks_idle h
  | node :: rest =>
      exact Run.tracks_andThen (hR.renderNode scope h)
        (hR.renderAll scope)
termination_by structural nodes

/-- Segments that are moved do what they did. -/
theorem Tracking.renderSegments {R : Cursor → Cursor → Prop}
    (hR : Tracking R) (scope : List Construct)
    {segments : List (List Node)} {c d : Cursor} (h : R c d) :
    SegmentRun.Tracks f R (renderSegments registry scope segments c)
      (renderSegments registry scope (movedSegments f segments) d) := by
  match segments with
  | [] => exact ⟨rfl, .finished h⟩
  | segment :: rest =>
      exact Run.tracks_thenSegments (hR.renderAll scope h)
        (hR.renderSegments scope)
termination_by structural segments

end

end TildeFormat
