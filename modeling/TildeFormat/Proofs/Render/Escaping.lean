/-
Escapes belong to the innermost construct around them. The tree says so
by where an escape stands, the template by the depth that is written in
its node, and the render by what catches it; the three agree.

Nothing but an escape makes a run end in an escape, and nothing but an
escape with no construct around it makes a render fail for being there.
Both kinds of ending go up through sequences and groups and no further
than a construct. So a sequence ends in one of them just when an escape
that stands in it directly, not inside a construct of it, is reached and
gives this ending: `renderAll_ending_iff`. For the body of a construct
this is an escape whose innermost construct it is; for a whole tree it
is one without any.
-/
import TildeFormat.Formatter
import TildeFormat.Proofs.Render.Accounting
import TildeFormat.Proofs.Render.Blame
import TildeFormat.Proofs.Render.Catching
import TildeFormat.Proofs.Render.Joining
import TildeFormat.Proofs.Template.Soundness

namespace TildeFormat

variable {registry : Registry} {scope : List Construct} {cursor : Cursor}

-- ======================================================= inside constructs

mutual

/-- Inside a construct no escape is stray. -/
theorem renderNode_not_stray (registry : Registry) (inner : Construct)
    (scope : List Construct) (node : Node) (cursor : Cursor) :
    (renderNode registry (inner :: scope) node cursor).FailsOnly
      (¬·.IsStray) := by
  match node with
  | .literal t _ => rintro e ⟨⟩
  | .simple kind clause =>
      exact fun e he => (blamedOn_renderSimple registry kind e he).not_stray
  | .escape depth clause =>
      exact fun e he =>
        (blamedOn_renderEscape registry inner scope depth e he).not_stray
  | .group items => exact renderAll_not_stray registry _ _ items cursor
  | .iteration body atLeastOnce clause =>
      exact failsOnly_renderIteration (fun e he => he.not_stray)
        (fun construct source =>
          renderAll_not_stray registry construct _ body source)
        atLeastOnce cursor
  | .justification segments clause =>
      exact failsOnly_renderJustification (fun e he => he.not_stray)
        (fun source _ he =>
          renderSegments_not_stray registry _ _ segments source he) cursor
termination_by structural node

theorem renderAll_not_stray (registry : Registry) (inner : Construct)
    (scope : List Construct) (nodes : List Node) (cursor : Cursor) :
    (renderAll registry (inner :: scope) nodes cursor).FailsOnly
      (¬·.IsStray) := by
  match nodes with
  | [] => exact Run.failsOnly_idle cursor
  | node :: rest =>
      exact Run.failsOnly_andThen
        (renderNode_not_stray registry inner scope node cursor)
        (renderAll_not_stray registry inner scope rest)
termination_by structural nodes

theorem renderSegments_not_stray (registry : Registry)
    (inner : Construct) (scope : List Construct)
    (segments : List (List Node)) (cursor : Cursor) {e : RenderError}
    (he : (renderSegments registry (inner :: scope) segments
      cursor).ending = .stopped (.error e)) : ¬e.IsStray := by
  match segments with
  | [] => cases he
  | segment :: rest =>
      exact failsOnly_thenSegments
        (renderAll_not_stray registry inner scope segment cursor)
        (fun next _ he =>
          renderSegments_not_stray registry inner scope rest next he) he
termination_by structural segments

end

-- ======================================================= escapes reached

/-- An ending that takes an escape: one that fires, or one that is
stray. -/
def Ending.OfEscape : Ending → Prop
  | .escaped _ _ => True
  | .stopped (.error e) => e.IsStray
  | _ => False

/-- The two bracketed constructs. -/
def Node.isConstruct : Node → Bool
  | .iteration .. | .justification .. => true
  | _ => false

/-- Rendering a sequence comes to an escape that stands in it directly,
with the cursor at `there`. -/
inductive Reached (registry : Registry) (scope : List Construct)
    (depth : Nat) (clause : Clause) (there : Cursor) :
    List Node → Cursor → Prop
  | here {rest : List Node} :
      Reached registry scope depth clause there
        (.escape depth clause :: rest) there
  | within {items rest : List Node} {cursor : Cursor}
      (h : Reached registry scope depth clause there items cursor) :
      Reached registry scope depth clause there (.group items :: rest)
        cursor
  | behind {node : Node} {rest : List Node} {cursor next : Cursor}
      (hends : (renderNode registry scope node cursor).ending
        = .finished next)
      (h : Reached registry scope depth clause there rest next) :
      Reached registry scope depth clause there (node :: rest) cursor

theorem Run.ending_andThen_of_finished {run : Run} {next : Cursor}
    (h : run.ending = .finished next) (rest : Cursor → Run) :
    (run.andThen rest).ending = (rest next).ending := by
  rw [Run.andThen_of_finished h]
  rfl

theorem Run.ending_andThen_of_ofEscape {run : Run}
    (h : run.ending.OfEscape) (rest : Cursor → Run) :
    (run.andThen rest).ending = run.ending := by
  rw [Run.andThen_of_not_finished]
  intro cursor hending
  rw [hending] at h
  cases h

/-- A run that catches its escapes and fails with no stray one has an
ending of its own. -/
theorem Run.not_ofEscape {run : Run} (hcatches : run.Catches)
    (hfails : run.FailsOnly (¬·.IsStray)) : ¬run.ending.OfEscape := by
  intro h
  unfold Ending.OfEscape at h
  split at h
  · next wholeLoop cursor hending => exact hcatches _ _ hending
  · next e hending => exact hfails e hending h
  · exact h

/-- Constructs let no escape out, wherever they stand. -/
theorem renderNode_catches_of_isConstruct (registry : Registry)
    (scope : List Construct) {node : Node} (h : node.isConstruct = true)
    (cursor : Cursor) : (renderNode registry scope node cursor).Catches := by
  cases node with
  | iteration => exact renderIteration_catches _ _ _ _ _
  | justification => exact renderJustification_catches _ _ _ _
  | literal | simple | escape | group => cases h

theorem renderNode_not_ofEscape_of_isConstruct (registry : Registry)
    (scope : List Construct) {node : Node} (h : node.isConstruct = true)
    (cursor : Cursor) :
    ¬(renderNode registry scope node cursor).ending.OfEscape := by
  refine Run.not_ofEscape
    (renderNode_catches_of_isConstruct registry scope h cursor) ?_
  cases node with
  | iteration body atLeastOnce clause =>
      exact failsOnly_renderIteration (fun e he => he.not_stray)
        (fun construct source =>
          renderAll_not_stray registry construct scope body source) _ _
  | justification segments clause =>
      exact failsOnly_renderJustification (fun e he => he.not_stray)
        (fun source _ he =>
          renderSegments_not_stray registry _ scope segments source he) _
  | literal | simple | escape | group => cases h

mutual

theorem renderNode_reached (registry : Registry) (scope : List Construct)
    (node : Node) (rest : List Node) (cursor : Cursor)
    (h : (renderNode registry scope node cursor).ending.OfEscape) :
    ∃ depth clause there,
      Reached registry scope depth clause there (node :: rest) cursor
        ∧ (renderNode registry scope node cursor).ending
          = (renderEscape registry scope depth clause there).ending := by
  match node with
  | .escape depth clause => exact ⟨depth, clause, cursor, .here, rfl⟩
  | .group items =>
      obtain ⟨depth, clause, there, hreached, heq⟩ :=
        renderAll_reached registry scope items cursor h
      exact ⟨depth, clause, there, .within hreached, heq⟩
  | .literal t _ => cases h
  | .simple kind clause =>
      exact absurd h (Run.not_ofEscape (renderSimple_catches registry kind)
        fun e he => (blamedOn_renderSimple registry kind e he).not_stray)
  | .iteration body atLeastOnce clause =>
      exact absurd h
        (renderNode_not_ofEscape_of_isConstruct registry scope rfl cursor)
  | .justification segments clause =>
      exact absurd h
        (renderNode_not_ofEscape_of_isConstruct registry scope rfl cursor)
termination_by structural node

/-- A sequence that ends in an escape came to one that stands in it
directly. -/
theorem renderAll_reached (registry : Registry) (scope : List Construct)
    (nodes : List Node) (cursor : Cursor)
    (h : (renderAll registry scope nodes cursor).ending.OfEscape) :
    ∃ depth clause there,
      Reached registry scope depth clause there nodes cursor
        ∧ (renderAll registry scope nodes cursor).ending
          = (renderEscape registry scope depth clause there).ending := by
  match nodes with
  | [] => cases h
  | node :: rest =>
      rw [renderAll] at h ⊢
      cases hending : (renderNode registry scope node cursor).ending with
      | finished next =>
          rw [Run.ending_andThen_of_finished hending] at h ⊢
          obtain ⟨depth, clause, there, hreached, heq⟩ :=
            renderAll_reached registry scope rest next h
          exact ⟨depth, clause, there, .behind hending hreached, heq⟩
      | escaped | stopped =>
          have hnode :
              (renderNode registry scope node cursor).ending.OfEscape := by
            rw [Run.andThen, hending] at h
            simpa only [hending] using h
          rw [Run.ending_andThen_of_ofEscape hnode]
          exact renderNode_reached registry scope node rest cursor hnode
termination_by structural nodes

end

/-- An escape that is reached decides how the sequence ends, if it
fires or is stray. -/
theorem Reached.ending {depth : Nat} {clause : Clause} {there : Cursor}
    {nodes : List Node}
    (h : Reached registry scope depth clause there nodes cursor)
    (hescape : (renderEscape registry scope depth clause
      there).ending.OfEscape) :
    (renderAll registry scope nodes cursor).ending
      = (renderEscape registry scope depth clause there).ending := by
  induction h with
  | here => exact Run.ending_andThen_of_ofEscape hescape _
  | within _ ih =>
      refine (Run.ending_andThen_of_ofEscape ?_ _).trans ih
      show (renderAll registry scope _ _).ending.OfEscape
      rw [ih]
      exact hescape
  | behind hends _ ih =>
      exact (Run.ending_andThen_of_finished hends _).trans ih

/-- A sequence has an ending that takes an escape just when an escape
that stands in it directly is reached and ends so. -/
theorem renderAll_ending_iff {nodes : List Node} {ending : Ending}
    (h : ending.OfEscape) :
    (renderAll registry scope nodes cursor).ending = ending
      ↔ ∃ depth clause there,
        Reached registry scope depth clause there nodes cursor
          ∧ (renderEscape registry scope depth clause there).ending
            = ending := by
  constructor
  · rintro rfl
    obtain ⟨depth, clause, there, hreached, heq⟩ :=
      renderAll_reached registry scope nodes cursor h
    exact ⟨depth, clause, there, hreached, heq.symm⟩
  · rintro ⟨depth, clause, there, hreached, rfl⟩
    exact hreached.ending h

-- ======================================================== read templates

/-- No escape of a well-formed tree has nothing around it. -/
theorem not_reached_of_wellFormed {direct : Bool} {nodes : List Node}
    {depth : Nat} {clause : Clause} {there : Cursor}
    (h : WellFormed registry 0 direct nodes) :
    ¬Reached registry [] depth clause there nodes cursor := by
  intro hreached
  induction hreached with
  | here => exact absurd h.1.2.2.1 (Nat.lt_irrefl 0)
  | within => exact h.1.elim
  | behind _ _ ih => exact ih h.2.2

/-- Where escapes belong. A template that was read is never rendered to
the error of a stray escape; whenever one of its escapes is evaluated,
the constructs around it are as many as its node says, and one that asks
for sublists is directly in a loop over them. In any tree, read or not, a
construct lets no escape out, and what it catches from a sequence inside
it is an escape that stands there directly and fires, so whoever renders
a tree never sees one; and the error of a stray escape is always that of
an escape with no construct around it. -/
theorem render_escapes (settings : Settings) :
    (∀ t tree, parse (.builtin settings) t = .ok tree → ∀ arguments,
      let run := render (.builtin settings) tree arguments
      (∀ e soFar, run.result = .error (.render e soFar) → ¬e.IsStray)
        ∧ ∀ depth active wholeLoop overSublists,
          .tested depth active wholeLoop overSublists ∈ run.events →
            active = depth ∧ (wholeLoop = true → overSublists = true))
      ∧ (∀ registry scope node cursor, node.isConstruct = true →
        ∀ wholeLoop last,
          (renderNode registry scope node cursor).ending
            ≠ .escaped wholeLoop last)
      ∧ (∀ registry scope nodes cursor wholeLoop last,
        (renderAll registry scope nodes cursor).ending
            = .escaped wholeLoop last
          ↔ ∃ depth clause there,
            Reached registry scope depth clause there nodes cursor
              ∧ (renderEscape registry scope depth clause there).ending
                = .escaped wholeLoop last)
      ∧ ∀ registry tree arguments,
        (render registry tree arguments).result ≠ .error .escape
          ∧ ∀ e soFar, e.IsStray →
            (render registry tree arguments).result
                = .error (.render e soFar) →
            ∃ depth clause there,
              Reached registry [] depth clause there tree
                  (.ofList arguments)
                ∧ e = ⟨.escapeOutside, some clause.position,
                  escapeName⟩ := by
  have hstray (registry : Registry) (tree : List Node)
      (arguments : List Value) (e : RenderError) (soFar : Text)
      (he : e.IsStray) (hresult : (render registry tree arguments).result
        = .error (.render e soFar)) :
      ∃ depth clause there,
        Reached registry [] depth clause there tree (.ofList arguments)
          ∧ e = ⟨.escapeOutside, some clause.position, escapeName⟩ := by
    have hending := (Run.result_eq_error_iff.mp hresult).2
    obtain ⟨depth, clause, there, hreached, heq⟩ :=
      (renderAll_ending_iff
        (show Ending.OfEscape (.stopped (.error e)) from he)).mp hending
    cases heq
    exact ⟨depth, clause, there, hreached, rfl⟩
  refine ⟨fun t tree hparse arguments => ⟨?_, ?_⟩, ?_, ?_,
    fun registry tree arguments => ⟨?_, hstray registry tree arguments⟩⟩
  · intro e soFar hresult he
    obtain ⟨depth, clause, there, hreached, -⟩ :=
      hstray _ _ _ e soFar he hresult
    exact not_reached_of_wellFormed (wellFormed_of_parse hparse) hreached
  · intro depth active wholeLoop overSublists hevent
    have haccounts :
        (render (.builtin settings) tree arguments).Accounts :=
      renderAll_accounts (wellFormed_of_parse hparse) ⟨rfl, by simp⟩ _
    obtain ⟨hdepth, hcolon⟩ := haccounts.proper _ hevent
    exact ⟨hdepth.symm, hcolon⟩
  · exact fun registry scope node cursor h =>
      renderNode_catches_of_isConstruct registry scope h cursor
  · exact fun registry scope nodes cursor wholeLoop last =>
      renderAll_ending_iff trivial
  · intro hresult
    have hcatches := renderAll_catches registry tree (.ofList arguments)
    unfold Run.result at hresult
    split at hresult
    · cases hresult
    · next wholeLoop cursor hending => exact hcatches _ _ hending
    · cases hresult
    · cases hresult

/-- Escapes of both kinds in a loop over sublists and one in a
justification inside it; and a tree that is an escape with nothing
around it. -/
theorem render_escapes_bothKinds :
    let tree : List Node :=
      [ .iteration
          [ .escape 1 ⟨[], ⟨true, false⟩, 3⟩,
            .justification
              [[.simple .human ⟨[], {}, 8⟩, .escape 2 ⟨[], {}, 10⟩],
                [.simple .decimal ⟨[], {}, 14⟩]]
              ⟨[], {}, 6⟩ ]
          false ⟨[], ⟨true, false⟩, 0⟩ ]
    let arguments : List Value :=
      [.list [.list [.str ['x']], .list [.int 1, .int 2]]]
    let run := render .standard tree arguments
    let bare := render .standard [.escape 1 ⟨[], {}, 5⟩] []
    let stray : RenderError := ⟨.escapeOutside, some 5, escapeName⟩
    parse .standard (word "~:\x7b~:^~<~a~^~;~d~>~\x7d") = .ok tree
      ∧ run.events.filter (· matches .tested ..) = [
        .tested 1 1 true true, .tested 2 2 false false,
        .tested 1 1 true true ]
      ∧ ((∀ e soFar, run.result = .error (.render e soFar) → ¬e.IsStray)
        ∧ ∀ depth active wholeLoop overSublists,
          .tested depth active wholeLoop overSublists ∈ run.events →
            active = depth ∧ (wholeLoop = true → overSublists = true))
      ∧ bare.result = .error (.render stray [])
      ∧ ∃ depth clause there,
        Reached .standard [] depth clause there
            [.escape 1 ⟨[], {}, 5⟩] (.ofList [])
          ∧ stray = ⟨.escapeOutside, some clause.position,
            escapeName⟩ := by
  intro tree arguments run bare stray
  have hparse : parse .standard (word "~:\x7b~:^~<~a~^~;~d~>~\x7d")
      = .ok tree := by
    with_unfolding_all rfl
  have hbare : bare.result = .error (.render stray []) := by rfl
  obtain ⟨hread, -, -, hbuilt⟩ := render_escapes .standard
  exact ⟨hparse, by rfl, hread _ tree hparse arguments, hbare,
    (hbuilt .standard _ []).2 stray [] rfl hbare⟩

end TildeFormat
