/-
Where an escape ends. An escape goes no further than the innermost
construct around it: loops and justifications let none out, and the
directives that render in one step fire none. With no construct around
it an escape is an error, so a whole render never ends in one.
-/
import TildeFormat.Proofs.Render.Loop

namespace TildeFormat

/-- A run that fires no escape at what is around it. -/
def Run.Catches (run : Run) : Prop :=
  ∀ wholeLoop cursor, run.ending ≠ .escaped wholeLoop cursor

-- ================================================================ runs

/-- A failed attempt is an error, and no escape. -/
theorem catches_orFail {α : Type} {attempt : Except RenderError α}
    {next : α → Run} (h : ∀ a, (next a).Catches) :
    (orFail attempt next).Catches := by
  cases attempt with
  | error e => exact nofun
  | ok a => exact h a

/-- A field that is drawn or refused fires nothing. -/
theorem catches_drawField (directive : Text) (position : Nat)
    (field : Field) (cursor : Cursor) :
    (drawField directive position field cursor).Catches := by
  unfold drawField
  cases field.draw with
  | ok t => exact nofun
  | error fault =>
      cases fault with
      | _ => exact nofun

-- =============================================================== actions

variable {directive : Text} {clause : Clause} {values : List ParamValue}
  {cursor : Cursor}

/-- The directives that put out an argument fire nothing. -/
theorem renderText_catches {form : Form} :
    (renderText form directive clause values cursor).Catches := by
  unfold renderText
  split
  · exact catches_orFail fun _ => catches_drawField _ _ _ _
  · exact nofun

theorem renderDecimal_catches :
    (renderDecimal directive clause values cursor).Catches := by
  unfold renderDecimal
  split
  · exact catches_orFail fun _ => catches_drawField _ _ _ _
  · exact nofun

theorem renderFixed_catches :
    (renderFixed directive clause values cursor).Catches := by
  unfold renderFixed
  split
  · split
    · refine catches_orFail ?_
      rintro ⟨argument, next⟩
      simp only
      cases argument.float? with
      | error fault => exact nofun
      | ok x? =>
          cases x? with
          | none => exact nofun
          | some x => exact catches_drawField _ _ _ _
    · exact nofun
  · exact nofun

theorem renderSkip_catches :
    (renderSkip directive clause values cursor).Catches := by
  unfold renderSkip
  split
  · exact catches_orFail fun _ => nofun
  · exact nofun

theorem renderCopies_catches {c : Character} :
    (renderCopies c directive clause values cursor).Catches := by
  unfold renderCopies
  split
  · exact catches_drawField _ _ _ _
  · exact nofun

/-- None of the built-in actions fires an escape. -/
theorem act_catches (kind : Kind) :
    (kind.act directive clause values cursor).Catches := by
  cases kind with
  | human | machine => exact renderText_catches
  | decimal => exact renderDecimal_catches
  | fixed => exact renderFixed_catches
  | skip => exact renderSkip_catches
  | newline | tilde => exact renderCopies_catches

/-- Neither does a simple directive, whatever is registered for it. -/
theorem renderSimple_catches (registry : Registry) (kind : Kind) :
    (renderSimple registry kind clause cursor).Catches := by
  refine catches_orFail ?_
  rintro ⟨values, next⟩
  simp only
  split
  · exact act_catches _
  · exact nofun

-- ================================================================ loops

/-- Every pass of a loop has its escapes caught. -/
theorem carries_catches (pass : Run) : Carries Run.Catches pass where
  last h wholeLoop cursor hending := by
    rw [hending] at h
    cases h
  caught _ _ := nofun
  front _ _ h := h

/-- A loop over its own arguments ends by what its passes come to: an
escape of a pass ends the loop or the pass, and nothing around it. -/
theorem overElements_catches (body : Cursor → Run) (stuck : RenderError)
    (forced : Bool) (limit : Option Nat) (source : Cursor) :
    (overElements body stuck forced limit source).run.Catches :=
  overElements_keeps (fun _ => nofun) (fun _ => carries_catches _)
    (fun _ _ _ => nofun) forced limit source

/-- So does a loop over lists. -/
theorem overSublists_catches (body : Nat → Cursor → Run)
    (open? : Value → Except RenderError (List Value)) (forced : Bool)
    (limit : Option Nat) (consumed : Nat) (items : List Value) :
    (overSublists body open? forced limit consumed items).run.Catches :=
  overSublists_keeps (fun _ => nofun) (fun _ _ => carries_catches _)
    (fun _ _ _ => nofun) forced limit consumed items

/-- And so does an iteration in each of its four forms. -/
theorem iterate_catches (body : Construct → Cursor → Run)
    (atLeastOnce : Bool) (clause : Clause) (limit : Option Int)
    (source : Cursor) :
    (iterate body atLeastOnce clause limit source).run.Catches := by
  unfold iterate
  split
  · exact overSublists_catches _ _ _ _ _ _
  · exact overElements_catches _ _ _ _ _

-- ========================================================== constructs

/-- The passes of a loop as one run. -/
theorem toRun_catches {passes : Passes} (h : passes.run.Catches)
    (position : Nat) (resume : Cursor → Cursor) :
    (passes.toRun position resume).Catches := by
  unfold Passes.toRun
  split
  · exact nofun
  · exact h

/-- An iteration catches what its body fires. -/
theorem renderIteration_catches (registry : Registry)
    (body : Construct → Cursor → Run) (atLeastOnce : Bool)
    (clause : Clause) (cursor : Cursor) :
    (renderIteration registry body atLeastOnce clause cursor).Catches := by
  refine catches_orFail ?_
  rintro ⟨values, next⟩
  simp only
  split
  · exact nofun
  · next limit _ =>
    have hloop (source : Cursor) (resume : Cursor → Cursor) :
        ((iterate body atLeastOnce clause limit source).toRun
          clause.position resume).Catches :=
      toRun_catches (iterate_catches _ _ _ _ _) _ _
    cases clause.modifiers.atSign with
    | true => exact hloop next id
    | false =>
        exact catches_orFail fun _ => catches_orFail fun _ => hloop _ _

/-- A justification catches what its segments fire: the segments before the
escape are laid out. -/
theorem renderJustification_catches (registry : Registry)
    (segments : Cursor → SegmentRun) (clause : Clause) (cursor : Cursor) :
    (renderJustification registry segments clause cursor).Catches := by
  refine catches_orFail ?_
  rintro ⟨values, next⟩
  simp only
  split
  · cases (segments next).ending with
    | stopped why => exact nofun
    | finished last | escaped wholeLoop last =>
        exact catches_drawField _ _ _ _
  · exact nofun

-- =============================================================== trees

mutual

/-- A node with no construct around it lets no escape out. -/
theorem renderNode_catches (registry : Registry) (node : Node)
    (cursor : Cursor) : (renderNode registry [] node cursor).Catches := by
  match node with
  | .literal t _ => exact nofun
  | .simple kind clause => exact renderSimple_catches _ _
  | .escape depth clause => exact nofun
  | .group items => exact renderAll_catches registry items cursor
  | .iteration body atLeastOnce clause =>
      exact renderIteration_catches _ _ _ _ _
  | .justification segments clause =>
      exact renderJustification_catches _ _ _ _
termination_by structural node

/-- Nodes with no construct around them let no escape out. -/
theorem renderAll_catches (registry : Registry) (nodes : List Node)
    (cursor : Cursor) : (renderAll registry [] nodes cursor).Catches := by
  match nodes with
  | [] => exact nofun
  | node :: rest =>
      have hnode := renderNode_catches registry node cursor
      rw [renderAll, Run.andThen]
      split
      · next next hending =>
        exact renderAll_catches registry rest next
      · exact hnode
termination_by structural nodes

end

end TildeFormat
