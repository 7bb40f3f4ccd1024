/-
Runs one after the other. Putting runs together is associative with the
idle run as unit, so a sequence of nodes rendered in two parts is the
sequence rendered as a whole, and it does not matter to a render whether
two literals that touch are one.
-/
import TildeFormat.Proofs.Template.Joining
import TildeFormat.Render

namespace TildeFormat

variable {registry : Registry} {scope : List Construct}

namespace Run

theorem behind_nil (run : Run) : run.behind [] [] = run := rfl

/-- Behind a run that finished the next one starts where it stopped. -/
theorem andThen_of_finished {run : Run} {cursor : Cursor}
    (h : run.ending = .finished cursor) (next : Cursor → Run) :
    run.andThen next = (next cursor).behind run.text run.events := by
  rw [andThen, h]

/-- Behind any other run nothing follows. -/
theorem andThen_of_not_finished {run : Run}
    (h : ∀ cursor, run.ending ≠ .finished cursor) (next : Cursor → Run) :
    run.andThen next = run := by
  unfold andThen
  split
  · next cursor heq => exact absurd heq (h cursor)
  · rfl

/-- A text in front of the first run is in front of both. -/
theorem behind_andThen (run : Run) (t : Text) (events : List Event)
    (next : Cursor → Run) :
    (run.behind t events).andThen next
      = (run.andThen next).behind t events := by
  unfold andThen
  cases hending : run.ending with
  | finished cursor =>
      simp only [behind, hending, List.append_assoc]
  | escaped wholeLoop cursor => simp only [behind, hending]
  | stopped why => simp only [behind, hending]

theorem idle_andThen (cursor : Cursor) (next : Cursor → Run) :
    (idle cursor).andThen next = next cursor := behind_nil _

/-- It does not matter how runs in a row are put together. -/
theorem andThen_assoc (run : Run) (next last : Cursor → Run) :
    (run.andThen next).andThen last
      = run.andThen fun cursor => (next cursor).andThen last := by
  cases hending : run.ending with
  | finished cursor =>
      rw [andThen_of_finished hending, andThen_of_finished hending,
        behind_andThen]
  | escaped | stopped =>
      have h (cursor : Cursor) : run.ending ≠ .finished cursor := by
        rw [hending]
        nofun
      rw [andThen_of_not_finished h, andThen_of_not_finished h,
        andThen_of_not_finished h]

/-- A run that does nothing may follow any run. -/
theorem andThen_idle (run : Run) : run.andThen idle = run := by
  cases hending : run.ending with
  | finished cursor =>
      rw [andThen_of_finished hending]
      simp only [behind, idle, List.append_nil, ← hending]
  | escaped | stopped =>
      apply andThen_of_not_finished
      intro cursor
      rw [hending]
      nofun

end Run

-- =========================================================== sequences

theorem renderAll_singleton (node : Node) (cursor : Cursor) :
    renderAll registry scope [node] cursor
      = renderNode registry scope node cursor :=
  Run.andThen_idle _

/-- Nodes in two parts render as the whole. -/
theorem renderAll_append (nodes rest : List Node) (cursor : Cursor) :
    renderAll registry scope (nodes ++ rest) cursor
      = (renderAll registry scope nodes cursor).andThen
          (renderAll registry scope rest) := by
  induction nodes generalizing cursor with
  | nil => exact (Run.idle_andThen _ _).symm
  | cons node nodes ih =>
      show (renderNode registry scope node cursor).andThen
          (renderAll registry scope (nodes ++ rest))
        = ((renderNode registry scope node cursor).andThen
            (renderAll registry scope nodes)).andThen _
      rw [Run.andThen_assoc]
      congr 1
      funext next
      exact ih next

/-- A node put behind a sequence renders behind it, whether its text goes
on with the text there or not. -/
theorem renderAll_addNode (current : List Node) (node : Node)
    (cursor : Cursor) :
    renderAll registry scope (addNode current node).reverse cursor
      = (renderAll registry scope current.reverse cursor).andThen
          (renderNode registry scope node) := by
  have hbehind : renderAll registry scope (node :: current).reverse cursor
      = (renderAll registry scope current.reverse cursor).andThen
          (renderNode registry scope node) := by
    rw [List.reverse_cons, renderAll_append]
    congr 1
    funext next
    exact renderAll_singleton node next
  cases hnode : node.isLiteral with
  | false => rw [addNode_of_not_literal hnode, hbehind]
  | true =>
      match node, current with
      | .literal t o, .literal s start :: rest =>
          show renderAll registry scope
            (.literal (s ++ t) start :: rest).reverse cursor = _
          simp only [List.reverse_cons, renderAll_append,
            Run.andThen_assoc]
          congr 1
          funext next
          rw [renderAll_singleton, renderAll_singleton]
          rfl
      | .literal t o, [] | .literal t o, .simple .. :: _
      | .literal t o, .iteration .. :: _
      | .literal t o, .justification .. :: _
      | .literal t o, .escape .. :: _ | .literal t o, .group .. :: _ =>
          exact hbehind

/-- Two trees one behind the other render one behind the other. -/
theorem renderAll_joined (tree later : List Node) (cursor : Cursor) :
    renderAll registry scope (joined tree later) cursor
      = (renderAll registry scope tree cursor).andThen
          (renderAll registry scope later) := by
  have hall (current : List Node) :
      renderAll registry scope (later.foldl addNode current).reverse cursor
        = (renderAll registry scope current.reverse cursor).andThen
            (renderAll registry scope later) := by
    induction later generalizing current with
    | nil => exact (Run.andThen_idle _).symm
    | cons node later ih =>
        rw [List.foldl_cons, ih, renderAll_addNode, Run.andThen_assoc]
        rfl
  rw [joined, hall, List.reverse_reverse]

end TildeFormat
