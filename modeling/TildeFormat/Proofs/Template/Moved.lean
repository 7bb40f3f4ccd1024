/-
Moving a tree: the same tree with its places mapped. Places are only
ever reported, so a tree that is moved stands for the same template at
another place; with all places mapped to one, `bare`, only what the tree
says is left.
-/
import TildeFormat.Template.Nesting

namespace TildeFormat

-- =============================================================== places

/-- The places of a clause: its tilde and its parameters. -/
def Clause.places (clause : Clause) : List Nat :=
  clause.position :: clause.params.map Param.position

theorem Clause.position_mem (clause : Clause) :
    clause.position ∈ clause.places := List.mem_cons_self

/-- The places of a piece. -/
def Piece.places : Piece → List Nat
  | .text _ position => [position]
  | .simple _ clause | .opener _ clause | .closer _ clause
  | .separator clause | .escape clause => clause.places

variable (f : Nat → Nat)

-- ================================================================ trees

def Param.moved (param : Param) : Param :=
  ⟨param.source, f param.position⟩

def Clause.moved (clause : Clause) : Clause :=
  ⟨clause.params.map (Param.moved f), clause.modifiers,
    f clause.position⟩

mutual

/-- A node with its places mapped. -/
def Node.moved : Node → Node
  | .literal t position => .literal t (f position)
  | .simple kind clause => .simple kind (clause.moved f)
  | .iteration body atLeastOnce clause =>
    .iteration (moved body) atLeastOnce (clause.moved f)
  | .justification segments clause =>
    .justification (movedSegments segments) (clause.moved f)
  | .escape depth clause => .escape depth (clause.moved f)
  | .group items => .group (moved items)

/-- A tree with its places mapped. -/
def moved : List Node → List Node
  | [] => []
  | node :: rest => node.moved :: moved rest

/-- Segments with their places mapped. -/
def movedSegments : List (List Node) → List (List Node)
  | [] => []
  | segment :: rest => moved segment :: movedSegments rest

end

/-- A tree without its places. -/
def bare (nodes : List Node) : List Node := moved (fun _ => 0) nodes

/-- Nodes are moved one by one. -/
theorem moved_eq_map (nodes : List Node) :
    moved f nodes = nodes.map (Node.moved f) := by
  induction nodes with
  | nil => rfl
  | cons node nodes ih =>
      show node.moved f :: moved f nodes = _
      rw [ih, List.map_cons]

/-- So are segments. -/
theorem movedSegments_eq_map (segments : List (List Node)) :
    movedSegments f segments = segments.map (moved f) := by
  induction segments with
  | nil => rfl
  | cons segment segments ih =>
      show moved f segment :: movedSegments f segments = _
      rw [ih, List.map_cons]

theorem Clause.moved_id (clause : Clause) : clause.moved id = clause := by
  have hparam : Param.moved id = id := rfl
  simp only [Clause.moved, hparam, List.map_id, id_eq]

mutual

/-- Moving nothing anywhere changes nothing. The three go by one induction,
as the nodes do. -/
theorem Node.moved_id (node : Node) : node.moved id = node := by
  match node with
  | .literal .. => rfl
  | .simple _ clause | .escape _ clause =>
      simp only [Node.moved, clause.moved_id]
  | .iteration body _ clause =>
      simp only [Node.moved, clause.moved_id, TildeFormat.moved_id body]
  | .justification segments clause =>
      simp only [Node.moved, clause.moved_id, movedSegments_id segments]
  | .group items => simp only [Node.moved, TildeFormat.moved_id items]

/-- A tree whose places stay is not moved. -/
theorem moved_id (nodes : List Node) : moved id nodes = nodes := by
  match nodes with
  | [] => rfl
  | node :: nodes => simp only [moved, node.moved_id, moved_id nodes]

theorem movedSegments_id (segments : List (List Node)) :
    movedSegments id segments = segments := by
  match segments with
  | [] => rfl
  | segment :: segments =>
      simp only [movedSegments, moved_id segment,
        movedSegments_id segments]

end

theorem Clause.moved_moved (g : Nat → Nat) (clause : Clause) :
    (clause.moved g).moved f = clause.moved (f ∘ g) := by
  simp only [Clause.moved, List.map_map]
  rfl

mutual

/-- Moving twice is moving once by both maps. -/
theorem Node.moved_moved (g : Nat → Nat) (node : Node) :
    (node.moved g).moved f = node.moved (f ∘ g) := by
  match node with
  | .literal .. => rfl
  | .simple _ clause | .escape _ clause =>
      simp only [Node.moved, clause.moved_moved]
  | .iteration body _ clause =>
      simp only [Node.moved, clause.moved_moved,
        TildeFormat.moved_moved g body]
  | .justification segments clause =>
      simp only [Node.moved, clause.moved_moved,
        movedSegments_moved g segments]
  | .group items =>
      simp only [Node.moved, TildeFormat.moved_moved g items]

/-- Moving a tree twice is moving it once. -/
theorem moved_moved (g : Nat → Nat) (nodes : List Node) :
    moved f (moved g nodes) = moved (f ∘ g) nodes := by
  match nodes with
  | [] => rfl
  | node :: nodes =>
      simp only [moved, node.moved_moved, moved_moved g nodes]

theorem movedSegments_moved (g : Nat → Nat)
    (segments : List (List Node)) :
    movedSegments f (movedSegments g segments)
      = movedSegments (f ∘ g) segments := by
  match segments with
  | [] => rfl
  | segment :: segments =>
      simp only [movedSegments, moved_moved g segment,
        movedSegments_moved g segments]

end

/-- A tree says the same wherever it is moved. -/
theorem bare_moved (nodes : List Node) :
    bare (moved f nodes) = bare nodes := moved_moved _ f nodes

/-- The order of nodes does not matter to it. -/
theorem moved_reverse (nodes : List Node) :
    moved f nodes.reverse = (moved f nodes).reverse := by
  rw [moved_eq_map, moved_eq_map, List.map_reverse]

-- ================================================================ nests

def Piece.moved : Piece → Piece
  | .text t position => .text t (f position)
  | .simple kind clause => .simple kind (clause.moved f)
  | .opener shape clause => .opener shape (clause.moved f)
  | .closer shape clause => .closer shape (clause.moved f)
  | .separator clause => .separator (clause.moved f)
  | .escape clause => .escape (clause.moved f)

/-- Only the places of a piece matter to where it is moved. -/
theorem Piece.moved_congr {f g : Nat → Nat} {piece : Piece}
    (h : ∀ place ∈ piece.places, f place = g place) :
    piece.moved f = piece.moved g := by
  have hclause (clause : Clause)
      (h : ∀ place ∈ clause.places, f place = g place) :
      clause.moved f = clause.moved g := by
    obtain ⟨hposition, hparams⟩ := List.forall_mem_cons.mp h
    rw [Clause.moved, Clause.moved, hposition,
      List.map_congr_left fun param hparam => ?_]
    exact congrArg _ (hparams _ (List.mem_map_of_mem hparam))
  cases piece with
  | text t o => exact congrArg _ (h o List.mem_cons_self)
  | simple | opener | closer | separator | escape =>
      exact congrArg _ (hclause _ h)

theorem Piece.moved_id (piece : Piece) : piece.moved id = piece := by
  cases piece with
  | text => rfl
  | simple | opener | closer | separator | escape =>
      simp only [Piece.moved, Clause.moved_id]

def Frame.moved (frame : Frame) : Frame :=
  ⟨frame.shape, frame.clause.moved f, movedSegments f frame.closed,
    TildeFormat.moved f frame.before⟩

def Nest.moved (nest : Nest) : Nest :=
  ⟨TildeFormat.moved f nest.current, nest.frames.map (Frame.moved f)⟩

/-- Text is added, or joined to the text before it, wherever it stands. -/
theorem Nest.addText_moved (nest : Nest) (t : Text) (o : Nat) :
    (nest.moved f).addText t (f o) = (nest.addText t o).moved f := by
  obtain ⟨current, frames⟩ := nest
  match current with
  | [] | .literal .. :: _ | .simple .. :: _ | .iteration .. :: _ => rfl
  | .justification .. :: _ | .escape .. :: _ | .group .. :: _ => rfl

/-- A construct that closes does so after it was moved, and gives the node
moved. -/
theorem Nest.close_moved {frame : Frame} {last : List Node}
    {closer : Clause} {node : Node}
    (h : Nest.close frame last closer = .ok node) :
    Nest.close (frame.moved f) (TildeFormat.moved f last)
      (closer.moved f) = .ok (node.moved f) := by
  obtain ⟨shape, clause, closed, before⟩ := frame
  cases shape with
  | iteration =>
      simp only [Nest.close] at h
      split at h
      · cases h
      · next hne =>
        cases h
        have hne' : (TildeFormat.moved f last).isEmpty = false := by
          cases last with
          | nil => exact absurd rfl hne
          | cons => rfl
        simp only [Nest.close, Frame.moved, hne', Bool.false_eq_true,
          if_false]
        rfl
  | justification =>
      cases h
      simp only [Nest.close, Frame.moved, Node.moved,
        movedSegments_eq_map, List.map_reverse, List.map_cons]

/-- An escape that may stand somewhere may stand there moved. -/
theorem Nest.checkEscape_moved (nest : Nest) (clause : Clause)
    (h : nest.checkEscape clause = .ok ()) :
    (nest.moved f).checkEscape (clause.moved f) = .ok () := by
  obtain ⟨current, frames⟩ := nest
  cases frames with
  | nil => cases h
  | cons frame frames =>
      simp only [Nest.checkEscape] at h
      split at h
      · cases h
      · next hfine =>
        simp only [Nest.checkEscape, Nest.moved, List.map_cons]
        exact if_neg hfine

/-- Reading pieces at other places is reading them and moving the
nest. -/
theorem Nest.step_moved {nest next : Nest} {piece : Piece}
    (h : nest.step piece = .ok next) :
    (nest.moved f).step (piece.moved f) = .ok (next.moved f) := by
  cases piece with
  | text t o =>
      cases h
      exact congrArg Except.ok (nest.addText_moved f t o)
  | simple | opener =>
      cases h
      rfl
  | escape clause =>
      simp only [Nest.step] at h
      split at h
      · cases h
      · next hcheck =>
        cases h
        simp only [Piece.moved, Nest.step,
          nest.checkEscape_moved f clause hcheck]
        simp only [Nest.add, Nest.moved, List.length_map]
        rfl
  | separator clause =>
      obtain ⟨current, frames⟩ := nest
      simp only [Nest.step] at h
      split at h
      · next frame frames =>
        split at h
        · next hshape =>
          cases h
          simp only [Piece.moved, Nest.step, Nest.moved, List.map_cons,
            Frame.moved, hshape, if_true, ← moved_reverse]
          rfl
        · cases h
      · cases h
  | closer shape clause =>
      obtain ⟨current, frames⟩ := nest
      simp only [Nest.step] at h
      split at h
      · cases h
      · next frame frames =>
        split at h
        · cases h
        · next hshape =>
          split at h
          · cases h
          · next node hclose =>
            cases h
            have hmoved := Nest.close_moved f hclose
            rw [moved_reverse] at hmoved
            simp only [Piece.moved, Nest.step, Nest.moved, List.map_cons]
            rw [if_neg (show ¬(frame.moved f).shape ≠ shape from hshape),
              hmoved]
            rfl

/-- Pieces that fit together do so after they were moved. -/
theorem Nest.steps_moved {nest last : Nest} {ps : List Piece}
    (h : nest.steps ps = .ok last) :
    (nest.moved f).steps (ps.map (Piece.moved f))
      = .ok (last.moved f) := by
  induction ps generalizing nest with
  | nil =>
      cases h
      rfl
  | cons piece ps ih =>
      rw [Nest.steps] at h
      split at h
      · cases h
      · next next hstep =>
        rw [List.map_cons, Nest.steps, Nest.step_moved f hstep]
        exact ih h

end TildeFormat
