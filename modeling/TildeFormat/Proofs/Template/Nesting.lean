/-
What a nest does with one more piece, and what a template is read as once
its pieces are known.
-/
import TildeFormat.Proofs.Template.WellFormed
import TildeFormat.Template.Nesting

namespace TildeFormat

-- ============================================================ one piece

/-- Innermost is a loop over sublists. -/
def directIn (frames : List Frame) : Bool :=
  frames.head?.any fun frame =>
    frame.shape == .iteration && frame.clause.modifiers.colon

/-- Text behind anything but a literal is a literal of its own. -/
theorem Nest.addText_of_not_startsLiteral {current : List Node}
    {frames : List Frame} (h : startsLiteral current = false) (t : Text)
    (o : Nat) :
    (⟨current, frames⟩ : Nest).addText t o
      = ⟨.literal t o :: current, frames⟩ := by
  match current with
  | [] => rfl
  | .literal .. :: _ => cases h
  | .simple .. :: _ | .iteration .. :: _ | .justification .. :: _ => rfl
  | .escape .. :: _ | .group .. :: _ => rfl

/-- An escape is in order inside a construct, one out of a whole loop
directly in the body of a loop over sublists. -/
theorem Nest.checkEscape_eq_ok_iff (nest : Nest) (clause : Clause) :
    nest.checkEscape clause = .ok ()
      ↔ 0 < nest.frames.length
        ∧ (clause.modifiers.colon = true → directIn nest.frames = true) := by
  obtain ⟨current, frames⟩ := nest
  cases frames with
  | nil => simp [checkEscape]
  | cons frame frames =>
      simp only [checkEscape, directIn, List.head?_cons,
        Option.any_some, List.length_cons]
      cases clause.modifiers.colon <;>
        cases hdirect : (frame.shape == .iteration
          && frame.clause.modifiers.colon) <;> simp

/-- The nest after a first piece that fits. -/
theorem Nest.steps_cons {nest next : Nest} {piece : Piece}
    (h : nest.step piece = .ok next) (ps : List Piece) :
    nest.steps (piece :: ps) = next.steps ps := by
  rw [Nest.steps, h]

theorem Nest.steps_append {nest last : Nest} {ps : List Piece}
    (h : nest.steps ps = .ok last) (qs : List Piece) :
    nest.steps (ps ++ qs) = last.steps qs := by
  induction ps generalizing nest with
  | nil =>
      cases h
      rfl
  | cons piece ps ih =>
      rw [Nest.steps] at h
      split at h
      · cases h
      · next next hstep =>
        rw [List.cons_append, Nest.steps, hstep]
        exact ih h

/-- Closing an iteration. -/
theorem Nest.step_closer_iteration {current before : List Node}
    {frames : List Frame} {clause closer : Clause}
    (h : current ≠ []) :
    Nest.step ⟨current, ⟨.iteration, clause, [], before⟩ :: frames⟩
        (.closer .iteration closer)
      = .ok ⟨.iteration current.reverse closer.modifiers.colon clause
          :: before, frames⟩ := by
  have hne : current.reverse.isEmpty = false := by
    rw [List.isEmpty_eq_false_iff]
    exact fun hnil => h (List.reverse_eq_nil_iff.mp hnil)
  simp [Nest.step, Nest.close, hne]

-- ========================================================= whole readings

/-- A template that is read to its end is the tree of its pieces. -/
theorem parse_of_readPieces {registry : Registry} {t : Text}
    {ps : List Piece} (h : readPieces registry ⟨0, t⟩ = ⟨ps, none⟩) :
    parse registry t
      = match Nest.empty.steps ps with
        | .error e => .error e
        | .ok nest => nest.finish := by
  have hstart : readPieces registry (Place.start t) = ⟨ps, none⟩ := h
  cases hsteps : Nest.empty.steps ps with
  | error e => simp [parse, hstart, hsteps]
  | ok nest => simp [parse, hstart, hsteps]

/-- What is read as a tree is read to its end, into a nest that holds
the tree. -/
theorem readPieces_of_parse {registry : Registry} {t : Text}
    {tree : List Node} (h : parse registry t = .ok tree) :
    ∃ ps nest, readPieces registry ⟨0, t⟩ = ⟨ps, none⟩
      ∧ Nest.empty.steps ps = .ok nest ∧ nest.finish = .ok tree := by
  simp only [parse] at h
  split at h
  · cases h
  · next nest hsteps =>
    split at h
    · cases h
    · next hnone =>
      refine ⟨_, nest, ?_, hsteps, h⟩
      show readPieces registry (Place.start t) = _
      rw [← hnone]

theorem Nest.finish_eq_ok_iff {nest : Nest} {tree : List Node} :
    nest.finish = .ok tree ↔ nest = ⟨tree.reverse, []⟩ := by
  obtain ⟨current, frames⟩ := nest
  cases frames with
  | nil => simp [finish, List.reverse_eq_iff]
  | cons frame frames => simp [finish]

end TildeFormat
