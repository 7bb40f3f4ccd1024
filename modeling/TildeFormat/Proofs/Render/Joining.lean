/-
Rendering two templates written one behind the other is rendering the
first and then, on the arguments it left, the second.

The joined tree renders as one tree behind the other. The second part
starts at a cursor that has arguments behind it, where a render of its
own starts at one that has none; what is ahead of both is the same, so
they track each other.
-/
import TildeFormat.Formatter
import TildeFormat.Proofs.Render.Forward
import TildeFormat.Proofs.Render.Sequence

namespace TildeFormat

variable {registry : Registry} {settings : Settings}

-- ======================================================== what is left

/-- A cursor of these arguments: ahead are those it has not used up. -/
def Cursor.Over (arguments : List Value) (cursor : Cursor) : Prop :=
  cursor.rest = arguments.drop cursor.consumed

/-- A render that finishes leaves the arguments it has not used up. -/
theorem over_of_render_finished {tree : List Node}
    {arguments : List Value} {cursor : Cursor}
    (h : (render registry tree arguments).ending = .finished cursor) :
    cursor.Over arguments := by
  have hstart : (Cursor.ofList arguments).Over arguments := rfl
  refine renderAll_keeps ?_ hstart h
  intro m v rest hover
  show rest = arguments.drop (m + 1)
  rw [← List.tail_drop, ← show v :: rest = arguments.drop m from hover]
  rfl

-- ============================================================= results

/-- A run has a text for its result when it finished. -/
theorem Run.result_eq_ok_iff {run : Run} {t : Text} :
    run.result = .ok t
      ↔ run.text = t ∧ ∃ cursor, run.ending = .finished cursor := by
  unfold result
  split <;> simp [*]

/-- It has an error, and the text so far, when it was stopped by one. -/
theorem Run.result_eq_error_iff {run : Run} {e : RenderError}
    {soFar : Text} :
    run.result = .error (.render e soFar)
      ↔ run.text = soFar ∧ run.ending = .stopped (.error e) := by
  unfold result
  split <;> simp [*, and_comm]

/-- A text in front of a run is in front of its result. -/
theorem Run.result_behind_eq_ok_iff {run : Run} {s t : Text}
    {events : List Event} :
    (run.behind s events).result = .ok (s ++ t) ↔ run.result = .ok t := by
  rw [result_eq_ok_iff, result_eq_ok_iff]
  simp only [behind, List.append_cancel_left_eq]

/-- Runs side by side have the same text for a result. -/
theorem Run.Tracks.result_eq_ok_iff {f : Nat → Nat}
    {R : Cursor → Cursor → Prop} {run run' : Run}
    (h : Run.Tracks f R run run') {t : Text} :
    run'.result = .ok t ↔ run.result = .ok t := by
  rw [Run.result_eq_ok_iff, Run.result_eq_ok_iff, h.text]
  have hending := h.ending
  generalize run.ending = ending at hending
  generalize run'.ending = ending' at hending
  cases hending <;> simp

/-- Or an error each, of the same kind and with the same text so far. -/
theorem Run.Tracks.result_eq_error {f : Nat → Nat}
    {R : Cursor → Cursor → Prop} {run run' : Run}
    (h : Run.Tracks f R run run') {e : RenderError} {soFar : Text}
    (herror : run.result = .error (.render e soFar)) :
    ∃ e', run'.result = .error (.render e' soFar) ∧ e.Moved f e' := by
  obtain ⟨rfl, hstopped⟩ := Run.result_eq_error_iff.mp herror
  have hending := h.ending
  rw [hstopped] at hending
  generalize hother : run'.ending = ending' at hending
  cases hending with
  | error he =>
      exact ⟨_, Run.result_eq_error_iff.mpr ⟨h.text, hother⟩, he⟩

/-- Cursors with the same arguments ahead, whatever is behind them. -/
def SameRest (c d : Cursor) : Prop := d.rest = c.rest

theorem tracking_sameRest : Tracking SameRest where
  rest h := h
  step _ := rfl

/-- The joined tree on some arguments, once the first tree has finished:
the second one on what it left, at another cursor. -/
theorem render_joined_of_finished {tree : List Node}
    {arguments : List Value} {cursor : Cursor} (f : Nat → Nat)
    (later : List Node)
    (h : (render registry tree arguments).ending = .finished cursor) :
    ∃ second, Run.Tracks f SameRest
        (render registry later (arguments.drop cursor.consumed)) second
      ∧ render registry (joined tree (moved f later)) arguments
        = second.behind (render registry tree arguments).text
            (render registry tree arguments).events := by
  have hover := over_of_render_finished h
  have hsame : SameRest (.ofList (arguments.drop cursor.consumed)) cursor :=
    hover
  refine ⟨_, tracking_sameRest.renderAll [] hsame, ?_⟩
  rw [render, renderAll_joined]
  exact Run.andThen_of_finished h _

/-- Two templates that are read, without white space that goes on with a
joined line between them, are read together, and rendered together they
are rendered one after the other: an error of the first is the error of
both, and after it the second is rendered on the arguments left to it,
with its errors moved behind the first. -/
theorem render_append {s t : Text} {tree later : List Node}
    (hs : parse (.builtin settings) s = .ok tree)
    (ht : parse (.builtin settings) t = .ok later)
    (hseam : EndsJoined (.builtin settings) 0 s →
      Stops isIndentation t) :
    ∃ whole, parse (.builtin settings) (s ++ t) = .ok whole
      ∧ ∀ arguments,
        let run := render (.builtin settings) whole arguments
        let first := render (.builtin settings) tree arguments
        (∀ e soFar, first.result = .error (.render e soFar) →
            run.result = .error (.render e soFar))
          ∧ ∀ a cursor, first.result = .ok a →
            first.ending = .finished cursor →
              let second := render (.builtin settings) later
                (arguments.drop cursor.consumed)
              (∀ b, run.result = .ok (a ++ b) ↔ second.result = .ok b)
                ∧ ∀ e soFar, second.result = .error (.render e soFar) →
                  ∃ e', run.result = .error (.render e' (a ++ soFar))
                    ∧ e.Moved (· + s.length) e' := by
  refine ⟨_, parse_joined hs ht hseam, fun arguments => ⟨?_, ?_⟩⟩
  · intro e soFar herror
    obtain ⟨-, hending⟩ := Run.result_eq_error_iff.mp herror
    rw [render, renderAll_joined, Run.andThen_of_not_finished]
    · exact herror
    · intro cursor hfinished
      cases hending.symm.trans hfinished
  · intro a cursor hok hfinished
    obtain ⟨htext, -⟩ := Run.result_eq_ok_iff.mp hok
    obtain ⟨second, htracks, heq⟩ :=
      render_joined_of_finished (· + s.length) later hfinished
    subst htext
    simp only [heq]
    refine ⟨fun b => ?_, fun e soFar herror => ?_⟩
    · exact Run.result_behind_eq_ok_iff.trans htracks.result_eq_ok_iff
    · obtain ⟨e', hsecond, hmoved⟩ := htracks.result_eq_error herror
      obtain ⟨hsoFar, hstopped⟩ := Run.result_eq_error_iff.mp hsecond
      exact ⟨e', Run.result_eq_error_iff.mpr
        ⟨congrArg _ hsoFar, hstopped⟩, hmoved⟩

/-- A template that ends with a joined line, and one that does not begin
with white space. -/
theorem render_append_atSeam :
    ∃ whole, parse .standard (word "x~A~\n  " ++ word "~D!") = .ok whole
      ∧ ∀ arguments,
        let run := render .standard whole arguments
        let first := render .standard
          [.literal ['x'] 0, .simple .human ⟨[], {}, 1⟩] arguments
        (∀ e soFar, first.result = .error (.render e soFar) →
            run.result = .error (.render e soFar))
          ∧ ∀ a cursor, first.result = .ok a →
            first.ending = .finished cursor →
              let second := render .standard
                [.simple .decimal ⟨[], {}, 0⟩, .literal ['!'] 2]
                (arguments.drop cursor.consumed)
              (∀ b, run.result = .ok (a ++ b) ↔ second.result = .ok b)
                ∧ ∀ e soFar, second.result = .error (.render e soFar) →
                  ∃ e', run.result = .error (.render e' (a ++ soFar))
                    ∧ e.Moved (· + 7) e' := by
  refine render_append (by with_unfolding_all rfl)
    (by with_unfolding_all rfl) fun _ => ?_
  intro c hc
  cases hc
  decide

end TildeFormat
