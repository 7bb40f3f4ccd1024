/-
A render uses arguments up one by one and gives none back. Whatever taking
an argument keeps true of a cursor is true of it all through a render, as
a render is tracked by itself with a cursor that has this property; so a
render leads from its cursor to one further on, and has used arguments up
just when fewer are left.
-/
import TildeFormat.Proofs.Render.Tracking

namespace TildeFormat

variable {registry : Registry} {cursor next : Cursor}

/-- Beside a run that finished the other one finished too. -/
theorem Ending.Tracks.of_finished {f : Nat → Nat}
    {R : Cursor → Cursor → Prop} {ending : Ending} {c : Cursor}
    (h : Ending.Tracks f R (.finished c) ending) :
    ∃ d, ending = .finished d ∧ R c d := by
  cases h with
  | finished hcursor => exact ⟨_, rfl, hcursor⟩

/-- What taking an argument keeps, rendering keeps. -/
theorem renderAll_keeps {P : Cursor → Prop}
    (hstep : ∀ m v rest, P ⟨m, v :: rest⟩ → P ⟨m + 1, rest⟩)
    {scope : List Construct} {nodes : List Node} (h : P cursor)
    (hends : (renderAll registry scope nodes cursor).ending
      = .finished next) : P next := by
  have htracking : Tracking fun c d => d.rest = c.rest ∧ P c :=
    { rest := fun h => h.1
      step := fun h => ⟨rfl, hstep _ _ _ h.2⟩ }
  have htracks : Run.Tracks id _ (renderAll registry scope nodes cursor)
      (renderAll registry scope (moved id nodes) cursor) :=
    htracking.renderAll scope ⟨rfl, h⟩
  have hending := htracks.ending
  rw [hends] at hending
  obtain ⟨_, -, -, hnext⟩ := hending.of_finished
  exact hnext

-- ============================================================= forward

/-- A cursor that takes some arguments becomes the other one. -/
def Cursor.LeadsTo (cursor next : Cursor) : Prop :=
  ∃ taken, cursor.rest = taken ++ next.rest
    ∧ next.consumed = cursor.consumed + taken.length

namespace Cursor.LeadsTo

theorem refl (cursor : Cursor) : cursor.LeadsTo cursor := ⟨[], rfl, rfl⟩

/-- A cursor that was led to leads on by one argument. -/
theorem step {m : Nat} {v : Value} {rest : List Value}
    (h : cursor.LeadsTo ⟨m, v :: rest⟩) :
    cursor.LeadsTo ⟨m + 1, rest⟩ := by
  obtain ⟨taken, hrest, hconsumed⟩ := h
  refine ⟨taken ++ [v], ?_, ?_⟩
  · rw [hrest, List.append_assoc]
    rfl
  · rw [List.length_append, List.length_singleton, ← Nat.add_assoc,
      ← hconsumed]

/-- The cursor has moved just when fewer arguments are left. -/
theorem remaining_lt_iff (h : cursor.LeadsTo next) :
    next.remaining < cursor.remaining
      ↔ next.consumed ≠ cursor.consumed := by
  obtain ⟨taken, hrest, hconsumed⟩ := h
  rw [Cursor.remaining, Cursor.remaining, hrest, List.length_append,
    hconsumed]
  omega

end Cursor.LeadsTo

/-- A body that leads its cursor forward whenever it finishes. -/
def Forward (body : Cursor → Run) : Prop :=
  ∀ cursor next, (body cursor).ending = .finished next →
    cursor.LeadsTo next

/-- A render only moves its cursor forward. -/
theorem renderAll_forward (registry : Registry) (scope : List Construct)
    (nodes : List Node) : Forward (renderAll registry scope nodes) :=
  fun cursor _ =>
    renderAll_keeps (fun _ _ _ h => h.step) (.refl cursor)

end TildeFormat
