/-
Loops. A loop runs a body over a source of elements, a pass at a time,
while there are elements and passes left; the first pass may be forced
on an empty source. A pass of a loop over elements reads the source
itself and uses up as many as its directives take. A pass of a loop over
sublists gets one element, a list of its own to read.

A loop over elements with no pass limit that neither escapes nor uses
anything up would run for ever; it is stopped after the first such pass.
So every further pass of it has fewer elements left, which is why it
ends; the other loops count passes or sublists down.
-/
import TildeFormat.Render.Run

namespace TildeFormat

/-- A run of a loop and the number of passes it started. -/
structure Passes where
  count : Nat
  run : Run

namespace Passes

/-- No pass at all. -/
def none (cursor : Cursor) : Passes := ⟨0, .idle cursor⟩

/-- One pass and then the passes of `rest`. -/
def after (pass : Run) (rest : Passes) : Passes :=
  ⟨rest.count + 1, rest.run.behind pass.text pass.events⟩

end Passes

-- ======================================================= over elements

/-- The passes of a loop over the elements of `source`. An escape ends
the loop and keeps the text of its pass; `stuck` is the error of a pass
that would be followed by the same pass for ever. -/
def overElements (body : Cursor → Run) (stuck : RenderError)
    (forced : Bool) (limit : Option Nat) (source : Cursor) : Passes :=
  if limit = some 0 ∨ (source.exhausted = true ∧ forced = false) then
    .none source
  else
    let pass := body source
    match pass.ending with
    | .stopped _ => ⟨1, pass⟩
    | .escaped _ next => ⟨1, pass.endingWith (.finished next)⟩
    | .finished next =>
      if next.exhausted then ⟨1, pass⟩
      else
        match _hlimit : limit with
        | some passes =>
          .after pass
            (overElements body stuck false (some (passes - 1)) next)
        | none =>
          if next.remaining < source.remaining then
            .after pass (overElements body stuck false none next)
          else ⟨1, pass.endingWith (.stopped (.error stuck))⟩
termination_by (limit.getD 0, source.remaining)
decreasing_by
  · apply Prod.Lex.left
    have : passes ≠ 0 := by
      rintro rfl
      simp_all
    simp only [Option.getD_some]
    omega
  · exact Prod.Lex.right _ (by assumption)

-- ======================================================= over sublists

/-- The passes of a loop over the sublists of `source`. The body gets the
number of sublists left after its own and a cursor over its own, which
is empty for a pass forced on an empty source. An escape ends its pass,
or the whole loop when it is of that kind; `open?` gives the elements of
a sublist. -/
def overSublists (body : Nat → Cursor → Run)
    (open? : Value → Except RenderError (List Value)) (forced : Bool)
    (limit : Option Nat) (consumed : Nat) : List Value → Passes
  | [] =>
    if limit = some 0 ∨ forced = false then .none ⟨consumed, []⟩
    else
      let pass := body 0 (.ofList [])
      match pass.ending with
      | .stopped _ => ⟨1, pass⟩
      | _ => ⟨1, pass.endingWith (.finished ⟨consumed, []⟩)⟩
  | v :: rest =>
    if limit = some 0 then .none ⟨consumed, v :: rest⟩
    else
      match open? v with
      | .error e => ⟨1, .fail e⟩
      | .ok items =>
        let pass := body rest.length (.ofList items)
        let onward := fun (_ : Unit) =>
          Passes.after pass
            (overSublists body open? false (limit.map (· - 1))
              (consumed + 1) rest)
        match pass.ending with
        | .stopped _ => ⟨1, pass⟩
        | .escaped true _ =>
          ⟨1, pass.endingWith (.finished ⟨consumed + 1, rest⟩)⟩
        | .escaped false _ => onward ()
        | .finished _ => onward ()

end TildeFormat
