/-
Render errors point into the template. An error names a directive and a
place, and there is a directive in the template whose source text, from
its tilde to its character, has that place in it and whose character, in
capitals, is the one that is named.

Three facts are put together. Every way a render can be given up, in
whatever construct, is blamed on a directive of the tree and one of the
places of its clause, those of its tilde and of its parameters:
`renderAll_pointsInto`. A directive of the tree is one the template was
read from, written out behind as many characters as its clause says. And
the places of a clause are in what it is spelled by; a last parameter that
is left out has the place of what comes behind it, the character at the
latest.
-/
import TildeFormat.Formatter
import TildeFormat.Proofs.Render.Blame
import TildeFormat.Proofs.Render.Joining
import TildeFormat.Proofs.Template.Origin

namespace TildeFormat

-- ====================================================== blame in a tree

/-- The error names the directive and one of its places. -/
def RenderError.PointsTo (d : Character × Clause) (e : RenderError) : Prop :=
  e.directive = directiveName d.1
    ∧ ∃ place ∈ d.2.places, e.position = some place

/-- A condition takes in every error that points to one of some
directives. -/
def Covers (P : RenderError → Prop) (ds : List (Character × Clause)) : Prop :=
  ∀ d ∈ ds, ∀ e, RenderError.PointsTo d e → P e

variable {registry : Registry} {P : RenderError → Prop} {cursor : Cursor}

/-- An error that is blamed on a directive points to it. -/
theorem RenderError.BlamedOn.pointsTo {letter : Character} {clause : Clause}
    {e : RenderError}
    (h : e.BlamedOn (directiveName letter) clause.places) :
    e.PointsTo (letter, clause) := ⟨h.directive, h.position⟩

/-- So do the errors of an escape. -/
theorem renderEscape_pointsTo (registry : Registry)
    (scope : List Construct) (depth : Nat) (clause : Clause)
    (cursor : Cursor) :
    (renderEscape registry scope depth clause cursor).FailsOnly
      (RenderError.PointsTo ('^', clause)) := by
  cases scope with
  | nil =>
      exact Run.failsOnly_fail
        ⟨rfl, clause.position, clause.position_mem, rfl⟩
  | cons inner scope =>
      exact fun e he =>
        (blamedOn_renderEscape registry inner scope depth e he).pointsTo

mutual

/-- A node fails with an error that points to one of its directives. By one
induction with nodes and segments. -/
theorem renderNode_pointsInto (registry : Registry)
    (scope : List Construct) (node : Node) (cursor : Cursor)
    (h : Covers P node.directives) :
    (renderNode registry scope node cursor).FailsOnly P := by
  match node with
  | .literal t _ => rintro e ⟨⟩
  | .simple kind clause =>
      exact fun e he => h _ (List.mem_singleton.mpr rfl) e
        (blamedOn_renderSimple registry kind e he).pointsTo
  | .escape depth clause =>
      exact fun e he => h _ (List.mem_singleton.mpr rfl) e
        (renderEscape_pointsTo registry scope depth clause cursor e he)
  | .group items => exact renderAll_pointsInto registry scope items cursor h
  | .iteration body atLeastOnce clause =>
      exact failsOnly_renderIteration
        (fun e he => h _ List.mem_cons_self e he.pointsTo)
        (fun construct source =>
          renderAll_pointsInto registry _ body source
            fun d hd => h d (List.mem_cons_of_mem _ hd))
        atLeastOnce cursor
  | .justification segments clause =>
      exact failsOnly_renderJustification
        (fun e he => h _ List.mem_cons_self e he.pointsTo)
        (fun source _ he =>
          renderSegments_pointsInto registry _ segments source
            (fun d hd => h d (List.mem_cons_of_mem _ hd)) he)
        cursor
termination_by structural node

/-- A render is given up with an error of one of the tree's directives. -/
theorem renderAll_pointsInto (registry : Registry)
    (scope : List Construct) (nodes : List Node) (cursor : Cursor)
    (h : Covers P (directives nodes)) :
    (renderAll registry scope nodes cursor).FailsOnly P := by
  match nodes with
  | [] => exact Run.failsOnly_idle cursor
  | node :: rest =>
      exact Run.failsOnly_andThen
        (renderNode_pointsInto registry scope node cursor
          fun d hd => h d (List.mem_append_left _ hd))
        (fun next => renderAll_pointsInto registry scope rest next
          fun d hd => h d (List.mem_append_right _ hd))
termination_by structural nodes

/-- The same for segments. -/
theorem renderSegments_pointsInto (registry : Registry)
    (scope : List Construct) (segments : List (List Node))
    (cursor : Cursor) (h : Covers P (segmentDirectives segments))
    {e : RenderError}
    (he : (renderSegments registry scope segments cursor).ending
      = .stopped (.error e)) : P e := by
  match segments with
  | [] => cases he
  | segment :: rest =>
      exact failsOnly_thenSegments
        (renderAll_pointsInto registry scope segment cursor
          fun d hd => h d (List.mem_append_left _ hd))
        (fun next _ he =>
          renderSegments_pointsInto registry scope rest next
            (fun d hd => h d (List.mem_append_right _ hd)) he) he
termination_by structural segments

end

-- ======================================================= places in words

/-- A parameter starts in what the parameters are spelled by, or where it
ends. -/
theorem SlotsSpelling.position_mem {o : Nat} {params : List Param}
    {w : Text} (h : SlotsSpelling o params w) {param : Param}
    (hparam : param ∈ params) :
    o ≤ param.position ∧ param.position ≤ o + w.length := by
  induction h with
  | last hsource =>
      cases List.mem_singleton.mp hparam
      exact ⟨Nat.le_refl _, Nat.le_add_right _ _⟩
  | @more o source w rest params hsource hrest ih =>
      rw [List.length_append, List.length_cons]
      rcases List.mem_cons.mp hparam with rfl | hlater
      · exact ⟨Nat.le_refl _, Nat.le_add_right _ _⟩
      · obtain ⟨hfrom, hto⟩ := ih hlater
        omega

/-- The places of a clause are in what it is spelled by. -/
theorem Clause.Spelling.place_mem {o : Nat} {clause : Clause} {c : Character}
    {w : Text} (h : clause.Spelling o c w) {place : Nat}
    (hplace : place ∈ clause.places) :
    o ≤ place ∧ place < o + w.length := by
  cases h with
  | @mk params modifiers _ ps ms hps hms =>
      rw [List.length_cons, List.length_append, List.length_append,
        List.length_singleton]
      rcases List.mem_cons.mp hplace with rfl | hparam
      · exact ⟨Nat.le_refl _, by omega⟩
      · obtain ⟨param, hmem, rfl⟩ := List.mem_map.mp hparam
        cases hps with
        | none => cases hmem
        | some hslots hne =>
            have := hslots.position_mem hmem
            omega

-- ============================================================= templates

/-- `w` is the source text of a directive of a template, from its tilde to
its character `c`: it stands behind `before`, and a piece of the
template's reading is spelled by it. -/
def IsDirectiveOf (registry : Registry) (t before w : Text) (c : Character) :
    Prop :=
  ∃ ps, Spelling registry 0 t ps ∧ ∃ piece ∈ ps, ∃ letter clause after,
    piece.directive? = some (letter, clause) ∧ upperChar c = [letter]
      ∧ clause.Spelling before.length c w ∧ t = before ++ (w ++ after)

variable {settings : Settings}

/-- Render errors point into the template: when a template that was read
cannot be rendered, the place of the error is in the source text of one of
its directives, and the error names the character of that directive in
capitals. -/
theorem render_error_place {t : Text} {tree : List Node}
    {arguments : List Value} {e : RenderError} {soFar : Text}
    (hparse : parse (.builtin settings) t = .ok tree)
    (hresult : (render (.builtin settings) tree arguments).result
      = .error (.render e soFar)) :
    ∃ before w c place, IsDirectiveOf (.builtin settings) t before w c
      ∧ e.position = some place ∧ before.length ≤ place
      ∧ place < before.length + w.length
      ∧ e.directive = .scalar '~' :: upperChar c := by
  have hblamed : ∃ d ∈ directives tree, e.PointsTo d :=
    renderAll_pointsInto (P := fun e => ∃ d ∈ directives tree, e.PointsTo d)
      (.builtin settings) [] tree (.ofList arguments)
      (fun d hd e he => ⟨d, hd, he⟩) e
      (Run.result_eq_error_iff.mp hresult).2
  obtain ⟨d, hd, hdirective, place, hplace, hposition⟩ := hblamed
  obtain ⟨ps, hread, piece, hpiece, hletter⟩ :=
    exists_piece_of_parse hparse hd
  have hspelling := readPieces_eq_iff.mp hread
  obtain ⟨before, w, after, rfl, letter, clause, c, heq, hupper, hw⟩ :=
    hspelling.writtenIn hpiece hletter
  cases hletter.symm.trans heq
  rw [Nat.zero_add] at hw
  obtain ⟨hfrom, hto⟩ := hw.place_mem hplace
  refine ⟨before, w, c, place, ?_, hposition, hfrom, hto, ?_⟩
  · exact ⟨ps, hspelling, piece, hpiece, letter, clause, after, hletter,
      hupper, hw, rfl⟩
  · rw [hdirective, hupper, directiveName]

/-- A column increment that is to come from the arguments, behind a
parameter that is written out, in a directive inside a construct. -/
def slotTemplate : Text := word "x~<~2,Va~>"

def slotTree : List Node :=
  [ .literal ['x'] 0,
    .justification
      [[.simple .human ⟨[⟨.integer 2, 4⟩, ⟨.nextArgument, 6⟩], {}, 3⟩]]
      ⟨[], {}, 1⟩ ]

def slotError : RenderError :=
  ⟨.paramType ⟨"colinc", .integer, .integer 1, some 1⟩ (word "\"y\""),
    some 6, word "~A"⟩

theorem render_error_place_slotTemplate :
    parse .standard slotTemplate = .ok slotTree
      ∧ (render .standard slotTree [.str ['y']]).result
        = .error (.render slotError ['x'])
      ∧ ∃ before w c place, IsDirectiveOf .standard slotTemplate before w c
        ∧ slotError.position = some place ∧ before.length ≤ place
        ∧ place < before.length + w.length
        ∧ slotError.directive = .scalar '~' :: upperChar c := by
  have hparse : parse .standard slotTemplate = .ok slotTree := by
    with_unfolding_all rfl
  have hresult : (render .standard slotTree [.str ['y']]).result
      = .error (.render slotError ['x']) := by
    with_unfolding_all rfl
  exact ⟨hparse, hresult, render_error_place hparse hresult⟩

end TildeFormat
