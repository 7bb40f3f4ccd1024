/-
Rendering: a tree laid out against a cursor. Every node comes to a run,
and the runs of a sequence follow one another.

The constructs around a node are passed down, innermost first, because
an escape asks about the innermost one. An iteration and a justification
catch every escape that fires inside them, so none gets past them; a
justification then shows the segments that were finished and drops the
one that was not.
-/
import TildeFormat.Render.Step
import TildeFormat.Render.Loop

namespace TildeFormat

-- ========================================================== constructs

/-- A construct around the directives being rendered: a justification, a
loop over elements, or a loop over sublists with that many left. -/
inductive Construct where
  | justification
  | elements
  | sublists (left : Nat)
deriving DecidableEq

-- ============================================================= escapes

namespace ParamValue

/-- Two values can be put in order: both integers or both texts. -/
def comparable : ParamValue → ParamValue → Bool
  | integer _, integer _ => true
  | text _, text _ => true
  | _, _ => false

/-- One value is at most another. -/
def le : ParamValue → ParamValue → Bool
  | integer n, integer m => decide (n ≤ m)
  | text s, text t => Text.le s t
  | _, _ => false

end ParamValue

/-- Nothing is left for the construct an escape without parameters asks
about: arguments at the cursor, or with a colon sublists of the loop. A
justification has none, and a loop over elements reads them off the
cursor itself. -/
def nothingLeft (inner : Construct) (wholeLoop : Bool) (cursor : Cursor) :
    Bool :=
  if wholeLoop then
    match inner with
    | .justification => true
    | .elements => cursor.exhausted
    | .sublists left => left == 0
  else cursor.exhausted

/-- An escape with `count` parameters fires: one, if it is zero; two, if
they are equal; three, if they are in order. -/
def escapeFires (clause : Clause) (count : Nat)
    (values : List ParamValue) : Except Stop Bool :=
  match count, values with
  | 1, a :: _ => .ok (a = .integer 0)
  | 2, a :: b :: _ => .ok (a = b)
  | _ + 3, a :: b :: c :: _ =>
    if a.comparable b && b.comparable c then .ok (a.le b && b.le c)
    else
      .error (.error ⟨.unorderable [a, b, c], some clause.position,
        escapeName⟩)
  | _, _ => .error (.fault .slotMissing)

/-- An escape: it fires or does nothing. -/
def renderEscape (registry : Registry) (scope : List Construct)
    (depth : Nat) (clause : Clause) (cursor : Cursor) : Run :=
  match scope with
  | [] => .fail ⟨.escapeOutside, some clause.position, escapeName⟩
  | inner :: _ =>
    let wholeLoop := clause.modifiers.colon
    let overSublists :=
      match inner with
      | .sublists _ => true
      | _ => false
    Run.noting [.tested depth scope.length wholeLoop overSublists]
      (orFail (resolveParams escapeName clause.params
          (registry.slots '^') cursor) fun (values, next) =>
        let test :=
          if clause.params.isEmpty then
            .ok (nothingLeft inner wholeLoop next)
          else escapeFires clause clause.params.length values
        match test with
        | .error why => .stop why
        | .ok true => ⟨[], [], .escaped wholeLoop next⟩
        | .ok false => .idle next)

-- ========================================================== iterations

/-- The elements of an argument an iteration goes over. -/
def openList (position : Nat) (v : Value) :
    Except RenderError (List Value) :=
  match v.elements? with
  | some items => .ok items
  | none =>
    .error ⟨.needsList (v.text .machine), some position,
      Shape.iteration.name⟩

/-- The pass limit among the parameter values of an iteration; a negative
one allows no pass. -/
def passLimit? : List ParamValue → Except Stop (Option Int)
  | [.absent] => .ok none
  | [.integer n] => .ok (some n)
  | values => .error (misfit 1 values)

/-- The error of a loop that would never end. -/
def stuckError (position : Nat) : RenderError :=
  ⟨.noProgress, some position, Shape.iteration.name⟩

/-- The loop of an iteration over a source, with the body as a function
of its constructs and its cursor. -/
def iterate (body : Construct → Cursor → Run) (atLeastOnce : Bool)
    (clause : Clause) (limit : Option Int) (source : Cursor) : Passes :=
  if clause.modifiers.colon then
    overSublists (fun left => body (.sublists left))
      (openList clause.position) atLeastOnce (limit.map Int.toNat)
      source.consumed source.rest
  else
    overElements (body .elements) (stuckError clause.position) atLeastOnce
      (limit.map Int.toNat) source

/-- The run of a loop as a part of what is around it: it notes how many
passes there were, and goes on at `resume` of where the source is. -/
def Passes.toRun (passes : Passes) (position : Nat)
    (resume : Cursor → Cursor) : Run :=
  match passes.run.ending with
  | .finished source =>
    { passes.run with
      events := passes.run.events ++ [.looped position passes.count]
      ending := .finished (resume source) }
  | _ => passes.run

/-- An iteration. With `@` it goes over the arguments left at the cursor,
which is then where the loop leaves it; without, over the elements of
the next argument. -/
def renderIteration (registry : Registry)
    (body : Construct → Cursor → Run) (atLeastOnce : Bool)
    (clause : Clause) (cursor : Cursor) : Run :=
  orFail (resolveParams Shape.iteration.name clause.params
      (registry.slots Shape.iteration.opener) cursor)
    fun (values, next) =>
      match passLimit? values with
      | .error why => .stop why
      | .ok limit =>
        Run.noting [.looping clause.position limit]
          (if clause.modifiers.atSign then
            (iterate body atLeastOnce clause limit next).toRun
              clause.position id
          else
            orFail (next.take Shape.iteration.name clause.position)
              fun (argument, last) =>
                orFail (openList clause.position argument) fun items =>
                  (iterate body atLeastOnce clause limit
                    (.ofList items)).toRun clause.position fun _ => last)

-- ====================================================== justifications

/-- The segments of a justification up to the end or to the first that
does not finish: the texts of those that finished, what happened, and
the ending of the last one. -/
structure SegmentRun where
  texts : List Text
  events : List Event
  ending : Ending

/-- A segment and, when it finishes, the segments after it. -/
def Run.thenSegments (segment : Run) (next : Cursor → SegmentRun) :
    SegmentRun :=
  match segment.ending with
  | .finished cursor =>
    let rest := next cursor
    ⟨segment.text :: rest.texts, segment.events ++ rest.events,
      rest.ending⟩
  | ending => ⟨[], segment.events, ending⟩

/-- A justification. An escape that fires in a segment ends the segments
there, without the one it fired in. -/
def renderJustification (registry : Registry)
    (segments : Cursor → SegmentRun) (clause : Clause) (cursor : Cursor) :
    Run :=
  let name := Shape.justification.name
  orFail (resolveParams name clause.params
      (registry.slots Shape.justification.opener) cursor)
    fun (values, next) =>
      match values with
      | [.integer mincol, .integer colinc, .integer minpad,
          .text padchar] =>
        let laid := segments next
        let drawn (last : Cursor) : Run :=
          drawField name clause.position
            (.justified ⟨mincol, colinc, minpad, padchar,
              clause.modifiers.colon, clause.modifiers.atSign⟩
              laid.texts) last
        Run.noting laid.events
          (match laid.ending with
          | .stopped why => .stop why
          | .finished last => drawn last
          | .escaped _ last => drawn last)
      | _ => .stop (misfit 4 values)

-- =============================================================== nodes

mutual

/-- A node inside the given constructs, innermost first. -/
def renderNode (registry : Registry) (scope : List Construct) :
    Node → Cursor → Run
  | .literal t _, cursor => .emit t cursor
  | .simple kind clause, cursor =>
    renderSimple registry kind clause cursor
  | .iteration body atLeastOnce clause, cursor =>
    renderIteration registry
      (fun construct => renderAll registry (construct :: scope) body)
      atLeastOnce clause cursor
  | .justification segments clause, cursor =>
    renderJustification registry
      (renderSegments registry (.justification :: scope) segments)
      clause cursor
  | .escape depth clause, cursor =>
    renderEscape registry scope depth clause cursor
  | .group items, cursor => renderAll registry scope items cursor

/-- Nodes one after the other. -/
def renderAll (registry : Registry) (scope : List Construct) :
    List Node → Cursor → Run
  | [], cursor => .idle cursor
  | node :: rest, cursor =>
    (renderNode registry scope node cursor).andThen
      (renderAll registry scope rest)

/-- The segments of a justification one after the other. -/
def renderSegments (registry : Registry) (scope : List Construct) :
    List (List Node) → Cursor → SegmentRun
  | [], cursor => ⟨[], [], .finished cursor⟩
  | segment :: rest, cursor =>
    (renderAll registry scope segment cursor).thenSegments
      (renderSegments registry scope rest)

end

/-- A tree against a list of arguments. -/
def render (registry : Registry) (tree : List Node)
    (arguments : List Value) : Run :=
  renderAll registry [] tree (.ofList arguments)

end TildeFormat
