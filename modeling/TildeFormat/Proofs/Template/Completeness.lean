/-
Printing and reading back: the template a well-formed tree is printed as
is read as that tree, with the offsets it was printed at.

The printed text spells the printed pieces, so these are what is read.
Put into a nest they add the tree's nodes to it, whatever the nest
already holds, as long as it is as deep as the tree is meant for and no
literals touch. Both facts go by induction on the tree, a node at a time,
with the rest of the text and the rest of the pieces left open.
-/
import TildeFormat.Proofs.Template.Moved
import TildeFormat.Proofs.Template.Nesting
import TildeFormat.Proofs.Template.Printing
import TildeFormat.Proofs.Template.Reading.Pieces

namespace TildeFormat

variable {settings : Settings}

-- ====================================== the printed text is a spelling

/-- The end of an iteration may be written, with a colon or without. -/
theorem allows_iterationEnd (atLeastOnce : Bool) :
    (Registry.builtin settings).Allows Shape.iteration.closer
      (iterationEnd atLeastOnce) := by
  refine ⟨nofun, _, rfl, ?_⟩
  exact ⟨Nat.le_refl _, slotsTake_nil_left _, fun _ => rfl, nofun⟩

/-- So may the end of a justification. -/
theorem allows_justificationEnd :
    (Registry.builtin settings).Allows Shape.justification.closer {} := by
  refine ⟨nofun, _, rfl, ?_⟩
  exact ⟨Nat.le_refl _, slotsTake_nil_left _, nofun, nofun⟩

/-- And a separator. -/
theorem allows_separator :
    (Registry.builtin settings).Allows ';' {} := by
  refine ⟨nofun, _, rfl, ?_⟩
  exact ⟨Nat.le_refl _, slotsTake_nil_left _, nofun, nofun⟩

/-- What is printed for anything but a literal starts with a tilde. -/
theorem Node.fresh_print {registry : Registry} {depth : Nat}
    {direct : Bool} {node : Node}
    (h : node.WellFormed registry depth direct)
    (hliteral : node.isLiteral = false) (rest : Text) :
    Fresh (node.print ++ rest) := by
  cases node with
  | literal => cases hliteral
  | simple | iteration | justification | escape => exact fresh_tilde _
  | group => cases h

/-- Printed nodes that do not start with a literal start a new piece. -/
theorem fresh_print {registry : Registry} {depth : Nat}
    {direct : Bool} {nodes : List Node}
    (h : WellFormed registry depth direct nodes)
    (hstart : startsLiteral nodes = false) {rest : Text}
    (hrest : Fresh rest) : Fresh (print nodes ++ rest) := by
  cases nodes with
  | nil => exact hrest
  | cons node nodes =>
      show Fresh (node.print ++ print nodes ++ rest)
      rw [List.append_assoc]
      exact node.fresh_print h.1 hstart _

mutual

/-- A printed node in front of a spelling. -/
theorem Node.spelling_print {depth : Nat} {direct : Bool} {node : Node}
    {o : Nat} {rest : Text} {ps : List Piece}
    (h : node.WellFormed (.builtin settings) depth direct)
    (hfresh : node.isLiteral = true → Fresh rest)
    (hrest : Spelling (.builtin settings) (o + node.print.length) rest
      ps) :
    Spelling (.builtin settings) o (node.print ++ rest)
      (node.pieces o ++ ps) := by
  match node with
  | .literal t _ => exact .text h.1 h.2 (hfresh rfl) hrest
  | .simple kind clause =>
      have hletter := upperChar_of_builtinLetters _
        (letter_mem_builtinLetters kind)
      exact .print_cons rfl hletter h hrest
  | .escape _ clause => exact .print_cons rfl rfl h.1 hrest
  | .group _ => cases h
  | .iteration body atLeastOnce clause =>
      obtain ⟨hallows, -, hbody⟩ := h
      simp only [Node.print, Node.pieces, List.append_assoc,
        List.cons_append, List.nil_append, List.length_append,
        ← Nat.add_assoc] at hrest ⊢
      refine .print_cons rfl rfl hallows ?_
      refine spelling_print hbody (fresh_tilde _) ?_
      exact .print_cons rfl rfl (allows_iterationEnd atLeastOnce) hrest
  | .justification segments clause =>
      obtain ⟨hallows, -, hsegments⟩ := h
      simp only [Node.print, Node.pieces, List.append_assoc,
        List.cons_append, List.nil_append, List.length_append,
        ← Nat.add_assoc] at hrest ⊢
      refine .print_cons rfl rfl hallows ?_
      refine spelling_printSegments hsegments (fresh_tilde _) ?_
      exact .print_cons rfl rfl allows_justificationEnd hrest

/-- Printed nodes in front of a spelling. -/
theorem spelling_print {depth : Nat} {direct : Bool}
    {nodes : List Node} {o : Nat} {rest : Text} {ps : List Piece}
    (h : WellFormed (.builtin settings) depth direct nodes)
    (hfresh : Fresh rest)
    (hrest : Spelling (.builtin settings) (o + (print nodes).length) rest
      ps) :
    Spelling (.builtin settings) o (print nodes ++ rest)
      (pieces o nodes ++ ps) := by
  match nodes with
  | [] => exact hrest
  | node :: nodes =>
      obtain ⟨hnode, happart, hnodes⟩ := h
      simp only [print, pieces, List.append_assoc, List.length_append,
        ← Nat.add_assoc] at hrest ⊢
      refine Node.spelling_print hnode ?_
        (spelling_print hnodes hfresh hrest)
      intro hliteral
      exact fresh_print hnodes (happart hliteral) hfresh

/-- Printed segments in front of a spelling. -/
theorem spelling_printSegments {depth : Nat}
    {segments : List (List Node)} {o : Nat} {rest : Text}
    {ps : List Piece}
    (h : SegmentsWellFormed (.builtin settings) depth segments)
    (hfresh : Fresh rest)
    (hrest : Spelling (.builtin settings)
      (o + (printSegments segments).length) rest ps) :
    Spelling (.builtin settings) o (printSegments segments ++ rest)
      (segmentPieces o segments ++ ps) := by
  match segments with
  | [] => exact hrest
  | [segment] =>
      simp only [printSegments, segmentPieces, separation, separator?,
        List.isEmpty_nil, if_true, List.append_nil] at hrest ⊢
      exact spelling_print h.1 hfresh hrest
  | segment :: next :: segments =>
      obtain ⟨hsegment, hmore⟩ := h
      rw [printSegments, segmentPieces]
      rw [printSegments] at hrest
      simp only [separation, separator?, List.isEmpty_cons,
        Bool.false_eq_true, if_false, List.append_assoc,
        List.cons_append, List.nil_append, List.length_append,
        ← Nat.add_assoc] at hrest ⊢
      refine spelling_print hsegment (fresh_tilde _) ?_
      refine .print_cons rfl rfl allows_separator ?_
      exact spelling_printSegments hmore hfresh hrest

end

-- ==================================== the printed pieces build the tree

theorem Node.isLiteral_located (o : Nat) (node : Node) :
    (node.located o).isLiteral = node.isLiteral := by
  cases node <;> rfl

mutual

/-- A printed node goes into a nest. -/
theorem Nest.steps_nodePieces {depth : Nat} {direct : Bool} {node : Node}
    {o : Nat} {current : List Node} {frames : List Frame}
    {registry : Registry} (h : node.WellFormed registry depth direct)
    (hdepth : frames.length = depth)
    (hdirect : directIn frames = direct)
    (happart : node.isLiteral = true → startsLiteral current = false)
    (ps : List Piece) :
    Nest.steps ⟨current, frames⟩ (node.pieces o ++ ps)
      = Nest.steps ⟨node.located o :: current, frames⟩ ps := by
  match node with
  | .literal t _ =>
      apply Nest.steps_cons
      rw [Nest.step, Nest.addText_of_not_startsLiteral (happart rfl)]
      rfl
  | .simple kind clause => exact Nest.steps_cons rfl ps
  | .escape d clause =>
      obtain ⟨-, rfl, hpos, hcolon⟩ := h
      apply Nest.steps_cons
      have hcheck := (Nest.checkEscape_eq_ok_iff ⟨current, frames⟩
        (clause.located o)).mpr
          ⟨hdepth.symm ▸ hpos, fun hc => hdirect.trans (hcolon hc)⟩
      simp only [Nest.step, hcheck, hdepth]
      rfl
  | .group _ => cases h
  | .iteration body atLeastOnce clause =>
      obtain ⟨-, hne, hbody⟩ := h
      simp only [Node.pieces, List.cons_append, List.append_assoc,
        List.nil_append]
      rw [Nest.steps_cons rfl,
        Nest.steps_pieces hbody (by rw [List.length_cons, hdepth]) rfl
          fun _ => rfl]
      have hlocated :
          (located (o + (clause.print Shape.iteration.opener).length)
            body).reverse ++ [] ≠ [] := by
        cases body with
        | nil => exact absurd rfl hne
        | cons => simp [located]
      rw [Nest.steps_cons (Nest.step_closer_iteration hlocated)]
      simp only [List.append_nil, List.reverse_reverse]
      rfl
  | .justification segments clause =>
      obtain ⟨-, hne, hsegments⟩ := h
      simp only [Node.pieces, List.cons_append, List.append_assoc,
        List.nil_append]
      rw [Nest.steps_cons rfl, Nest.steps_segmentPieces hsegments hne
        (by rw [hdepth])]
      rfl
termination_by structural node

/-- Printed nodes go into a nest, one after the other. -/
theorem Nest.steps_pieces {depth : Nat} {direct : Bool}
    {nodes : List Node} {o : Nat} {current : List Node}
    {frames : List Frame} {registry : Registry}
    (h : WellFormed registry depth direct nodes)
    (hdepth : frames.length = depth)
    (hdirect : directIn frames = direct)
    (happart : startsLiteral nodes = true → startsLiteral current = false)
    (ps : List Piece) :
    Nest.steps ⟨current, frames⟩ (pieces o nodes ++ ps)
      = Nest.steps ⟨(located o nodes).reverse ++ current, frames⟩ ps := by
  match nodes with
  | [] => rfl
  | node :: nodes =>
      obtain ⟨hnode, hnext, hnodes⟩ := h
      have happart' : startsLiteral nodes = true →
          startsLiteral (node.located o :: current) = false := by
        intro hstart
        show (node.located o).isLiteral = false
        rw [node.isLiteral_located]
        cases hliteral : node.isLiteral with
        | false => rfl
        | true => rw [hnext hliteral] at hstart; cases hstart
      rw [pieces, List.append_assoc,
        Nest.steps_nodePieces hnode hdepth hdirect happart,
        Nest.steps_pieces hnodes hdepth hdirect happart']
      simp [located]
termination_by structural nodes

/-- Printed segments and the end of their justification go into a
nest. -/
theorem Nest.steps_segmentPieces {depth : Nat}
    {segments : List (List Node)} {o : Nat} {closed : List (List Node)}
    {before : List Node} {frames : List Frame} {clause closer : Clause}
    {registry : Registry} (h : SegmentsWellFormed registry depth segments)
    (hne : segments ≠ []) (hdepth : frames.length + 1 = depth)
    (ps : List Piece) :
    Nest.steps ⟨[], ⟨.justification, clause, closed, before⟩ :: frames⟩
        (segmentPieces o segments ++ .closer .justification closer :: ps)
      = Nest.steps ⟨.justification
          (closed.reverse ++ locatedSegments o segments) clause
            :: before, frames⟩ ps := by
  match segments with
  | [] => exact absurd rfl hne
  | [segment] =>
      simp only [segmentPieces, separator?, List.isEmpty_nil, if_true,
        List.append_nil, locatedSegments]
      rw [Nest.steps_pieces h.1 (by rw [List.length_cons, hdepth]) rfl
        fun _ => rfl]
      apply Nest.steps_cons
      simp [Nest.step, Nest.close]
  | segment :: next :: segments =>
      obtain ⟨hsegment, hmore⟩ := h
      rw [segmentPieces, locatedSegments]
      simp only [separator?, List.isEmpty_cons, Bool.false_eq_true,
        if_false, List.append_assoc, List.cons_append, List.nil_append]
      rw [Nest.steps_pieces hsegment (by rw [List.length_cons, hdepth]) rfl
          fun _ => rfl,
        Nest.steps_cons rfl,
        Nest.steps_segmentPieces hmore (List.cons_ne_nil _ _) hdepth]
      simp
termination_by structural segments

end

-- ====================================================== the whole tree

/-- Places come last: parameters that were located are the same but for
their places. -/
theorem movedParams_locatedParams (o : Nat) (params : List Param) :
    (locatedParams o params).map (Param.moved fun _ => 0)
      = params.map (Param.moved fun _ => 0) := by
  induction params generalizing o with
  | nil => rfl
  | cons param rest ih =>
      show Param.moved _ ⟨param.source, o⟩ :: _ = _
      rw [ih]
      rfl

/-- And so is a clause. -/
theorem Clause.moved_located (o : Nat) (clause : Clause) :
    (clause.located o).moved (fun _ => 0) = clause.moved fun _ => 0 := by
  simp only [Clause.moved, Clause.located, movedParams_locatedParams]

mutual

/-- And so are nodes, by one induction over the three kinds of them. -/
theorem Node.moved_located (o : Nat) (node : Node) :
    (node.located o).moved (fun _ => 0) = node.moved fun _ => 0 := by
  match node with
  | .literal t _ => rfl
  | .simple kind clause | .escape depth clause =>
      simp only [Node.located, Node.moved, Clause.moved_located]
  | .iteration body atLeastOnce clause =>
      simp only [Node.located, Node.moved, Clause.moved_located,
        moved_located]
  | .justification segments clause =>
      simp only [Node.located, Node.moved, Clause.moved_located,
        movedSegments_located]
  | .group items =>
      simp only [Node.located, Node.moved, moved_located]

theorem moved_located (o : Nat) (nodes : List Node) :
    moved (fun _ => 0) (located o nodes) = moved (fun _ => 0) nodes := by
  match nodes with
  | [] => rfl
  | node :: nodes =>
      simp only [located, moved, Node.moved_located, moved_located]

theorem movedSegments_located (o : Nat) (segments : List (List Node)) :
    movedSegments (fun _ => 0) (locatedSegments o segments)
      = movedSegments (fun _ => 0) segments := by
  match segments with
  | [] => rfl
  | segment :: segments =>
      simp only [locatedSegments, movedSegments, moved_located,
        movedSegments_located]

end

/-- Printing locates a tree and changes nothing else. -/
theorem bare_located (o : Nat) (nodes : List Node) :
    bare (located o nodes) = bare nodes := moved_located o nodes

/-- Every well-formed tree is read back from its print, with the offsets
it is printed at and otherwise as it was. -/
theorem parse_print {tree : List Node}
    (h : WellFormed (.builtin settings) 0 false tree) :
    parse (.builtin settings) (print tree) = .ok (located 0 tree)
      ∧ bare (located 0 tree) = bare tree := by
  refine ⟨?_, bare_located 0 tree⟩
  have hspelling := spelling_print (o := 0) h fresh_nil .nil
  rw [List.append_nil, List.append_nil] at hspelling
  rw [parse_of_readPieces (readPieces_of_spelling hspelling)]
  have hsteps : Nest.empty.steps (pieces 0 tree ++ [])
      = Nest.steps ⟨(located 0 tree).reverse ++ [], []⟩ [] :=
    Nest.steps_pieces h rfl rfl (fun _ => rfl) []
  rw [List.append_nil, List.append_nil] at hsteps
  rw [hsteps]
  show Except.ok (located 0 tree).reverse.reverse = _
  rw [List.reverse_reverse]

/-- A loop over sublists with an escape out of it, and a justification
with an empty segment; among the parameters are omitted ones and quoted
characters that mean something elsewhere. -/
def sampleTree : List Node :=
  [ .literal ['a', '\n'] 0,
    .iteration
      [ .simple .human { params := [⟨.integer 5, 0⟩, ⟨.omitted, 0⟩,
          ⟨.omitted, 0⟩, ⟨.character ',', 0⟩] },
        .escape 1 { modifiers := ⟨true, false⟩ } ]
      true { modifiers := ⟨true, false⟩ },
    .justification
      [[], [.simple .tilde { params := [⟨.nextArgument, 0⟩] }]]
      { params := [⟨.remaining, 0⟩, ⟨.omitted, 0⟩, ⟨.omitted, 0⟩,
          ⟨.character '~', 0⟩], modifiers := ⟨true, true⟩ } ]

theorem wellFormed_sampleTree : WellFormed .standard 0 false sampleTree := by
  have hallows {letter : Character} {clause : Clause} {spec : Spec}
      (hwritable : clause.params.map Param.source ≠ [.omitted])
      (hspec : Registry.standard.get? [letter] = some spec)
      (hcheck : spec.check clause = .ok ()) :
      Registry.standard.Allows letter clause :=
    ⟨hwritable, spec, hspec, (spec.check_eq_ok_iff clause).mp hcheck⟩
  refine ⟨⟨by decide, by decide⟩, by decide, ?_, by decide, ?_, by decide,
    trivial⟩
  · refine ⟨hallows (by decide) rfl rfl, by simp, ?_, by decide, ?_⟩
    · exact hallows (by decide) rfl rfl
    · exact ⟨⟨hallows (by decide) rfl rfl, rfl, by decide, fun _ => rfl⟩,
        by decide, trivial⟩
  · exact ⟨hallows (by decide) rfl rfl, by simp, trivial,
      ⟨hallows (by decide) rfl rfl, by decide, trivial⟩, trivial⟩

theorem parse_print_sampleTree :
    parse .standard (print sampleTree) = .ok (located 0 sampleTree)
      ∧ bare (located 0 sampleTree) = bare sampleTree :=
  parse_print wellFormed_sampleTree

end TildeFormat
