/-
Two templates written one behind the other: the tree is the two trees
one behind the other, the second moved by the length of the first, and
where two literals meet they become one.

Only a joined line can spoil this. It takes the white space behind it
along, so when the first template ends with one that has no colon, the
second must not begin with white space.

A nest can be put onto a sequence, below everything it holds. Pieces do
not notice, and so the pieces of the second template do to the nest of
the first what they do to an empty one.
-/
import TildeFormat.Proofs.Template.Moved
import TildeFormat.Proofs.Template.Nesting
import TildeFormat.Proofs.Template.Reading.Pieces

namespace TildeFormat

variable {registry : Registry} {settings : Settings}

-- ==================================================== spellings elsewhere

/-- Parameters are spelled the same further on in a text. -/
theorem SlotsSpelling.shift {o : Nat} {params : List Param} {w : Text}
    (h : SlotsSpelling o params w) (k : Nat) :
    SlotsSpelling (o + k) (params.map (Param.moved (· + k))) w := by
  induction h with
  | last hsource => exact .last hsource
  | @more o source w rest params hsource _ ih =>
      refine .more hsource ?_
      rwa [show o + k + w.length + 1 = o + w.length + 1 + k by omega]

theorem ParamsSpelling.shift {o : Nat} {params : List Param} {w : Text}
    (h : ParamsSpelling o params w) (k : Nat) :
    ParamsSpelling (o + k) (params.map (Param.moved (· + k))) w := by
  cases h with
  | none => exact .none
  | some h hw => exact .some (h.shift k) hw

/-- A piece that is moved has the same directive, moved. -/
theorem Piece.directive?_moved (f : Nat → Nat) (piece : Piece) :
    (piece.moved f).directive?
      = piece.directive?.map fun pair => (pair.1, pair.2.moved f) := by
  cases piece <;> rfl

/-- So is a piece. -/
theorem Piece.Spelling.shift {o : Nat} {piece : Piece} {w : Text}
    (h : piece.Spelling o w) (k : Nat) :
    (piece.moved (· + k)).Spelling (o + k) w := by
  obtain ⟨letter, clause, c, hdirective, hc, hw⟩ := h
  refine ⟨letter, clause.moved (· + k), c, ?_, hc, ?_⟩
  · rw [Piece.directive?_moved, hdirective]
    rfl
  · cases hw with
    | mk hps hms =>
        have hps := hps.shift k
        rw [show o + 1 + k = o + k + 1 by omega] at hps
        exact .mk hps hms

/-- What is allowed does not depend on the place. -/
theorem Piece.Allowed.moved {piece : Piece} (h : piece.Allowed registry)
    (f : Nat → Nat) : (piece.moved f).Allowed registry := by
  intro letter clause hdirective
  rw [Piece.directive?_moved, Option.map_eq_some_iff] at hdirective
  obtain ⟨⟨letter, clause⟩, hpiece, heq⟩ := hdirective
  cases heq
  refine (h letter clause hpiece).congr ?_ rfl
  simp only [Clause.moved, List.map_map]
  rfl

/-- What is spelled at one offset is spelled at any other. -/
theorem Spelling.shift {o : Nat} {t : Text} {ps : List Piece}
    (h : Spelling registry o t ps) (k : Nat) :
    Spelling registry (o + k) t (ps.map (Piece.moved (· + k))) := by
  induction h with
  | nil => exact .nil
  | text ht htilde hfresh _ ih =>
      rw [Nat.add_right_comm] at ih
      exact .text ht htilde hfresh ih
  | directive hpiece hallowed _ ih =>
      rw [Nat.add_right_comm] at ih
      exact .directive (hpiece.shift k) (hallowed.moved _) ih
  | @join o modifiers _ _ _ hjoin _ ih =>
      rw [Nat.add_right_comm] at ih
      have hkept : (keptBreak modifiers o).map (Piece.moved (· + k))
          = keptBreak modifiers (o + k) := by
        unfold keptBreak
        split <;> rfl
      rw [List.map_append, hkept]
      exact .join hjoin ih

-- ============================================================ the seam

/-- A template that ends with a joined line that has no colon. -/
def EndsJoined (registry : Registry) (o : Nat) (s : Text) : Prop :=
  ∃ u ps modifiers w, s = u ++ w ∧ Spelling registry o u ps
    ∧ JoinSpelling modifiers w [] ∧ modifiers.colon = false

/-- No white space goes on with a joined line at the end. -/
def Seam (registry : Registry) (o : Nat) (s t : Text) : Prop :=
  EndsJoined registry o s → Stops isIndentation t

/-- The seam is that of the text behind a first part, as long as what is
left of it still follows that part. -/
theorem Seam.rest {o o' : Nat} {w rest t : Text}
    (h : Seam registry o (w ++ rest) t)
    (hpart : ∀ u v ps, rest = u ++ v → Spelling registry o' u ps →
      ∃ qs, Spelling registry o (w ++ u) qs) :
    Seam registry o' rest t := by
  rintro ⟨u, ps, modifiers, v, rfl, hu, hjoin, hcolon⟩
  obtain ⟨qs, hqs⟩ := hpart u v ps rfl hu
  exact h ⟨w ++ u, qs, modifiers, v, (List.append_assoc ..).symm, hqs,
    hjoin, hcolon⟩

/-- A test that stops at the front of two texts stops at the first one. -/
theorem Stops.of_append {test : Character → Bool} {u v : Text}
    (h : Stops test (u ++ v)) : Stops test u := by
  intro c hc
  apply h c
  rw [List.head?_append, hc]
  rfl

/-- It stops at the first one, or at the second when the first is empty. -/
theorem Stops.append {test : Character → Bool} {u : Text} (h : Stops test u)
    {v : Text} (hv : u = [] → Stops test v) : Stops test (u ++ v) := by
  cases u with
  | nil => exact hv rfl
  | cons c u => exact h

/-- Two texts in a row are fresh when the first one is. -/
theorem Fresh.of_append {u v : Text} (h : Fresh (u ++ v)) : Fresh u := by
  intro c hc
  apply h c
  rw [List.head?_append, hc]
  rfl

/-- Only the start of the rest matters to a joined line. -/
theorem JoinSpelling.congr {modifiers : Modifiers} {w rest rest' : Text}
    (h : JoinSpelling modifiers w rest)
    (hrest' : modifiers.colon = false → Stops isIndentation rest') :
    JoinSpelling modifiers w rest' := by
  cases h with
  | mk hms hblanks hcolon _ => exact .mk hms hblanks hcolon hrest'

/-- A line break without a colon takes all the indentation there is. -/
theorem JoinSpelling.stops {modifiers : Modifiers} {w rest : Text}
    (h : JoinSpelling modifiers w rest)
    (hcolon : modifiers.colon = false) : Stops isIndentation rest := by
  cases h with
  | mk _ _ _ hrest => exact hrest hcolon

/-- Nothing is spelled by no pieces. -/
theorem Spelling.eq_nil {o : Nat} {ps : List Piece}
    (h : Spelling registry o [] ps) : ps = [] := by
  generalize ht : ([] : Text) = t at h
  cases h with
  | nil => rfl
  | text hne => exact absurd (List.append_eq_nil_iff.mp ht.symm).1 hne
  | directive hpiece =>
      obtain ⟨w, rfl⟩ := hpiece.eq_tilde_cons
      cases ht
  | join hjoin =>
      obtain ⟨w, rfl⟩ := hjoin.eq_tilde_cons
      cases ht

/-- A spelled text goes on with a directive, or with text. -/
theorem Spelling.fresh_or_text {o : Nat} {t : Text} {ps : List Piece}
    (h : Spelling registry o t ps) :
    Fresh t ∨ ∃ w rest qs, t = w ++ rest ∧ ps = .text w o :: qs
      ∧ .scalar '~' ∉ w ∧ Fresh rest
      ∧ Spelling registry (o + w.length) rest qs := by
  cases h with
  | nil => exact .inl fresh_nil
  | text _ htilde hfresh hrest =>
      exact .inr ⟨_, _, _, rfl, rfl, htilde, hfresh, hrest⟩
  | directive hpiece =>
      obtain ⟨w, rfl⟩ := hpiece.eq_tilde_cons
      exact .inl (fresh_tilde _)
  | join hjoin =>
      obtain ⟨w, rfl⟩ := hjoin.eq_tilde_cons
      exact .inl (fresh_tilde _)

/-- Text in two parts is text. -/
theorem Nest.addText_addText (nest : Nest) (v w : Text) (o o' : Nat) :
    (nest.addText v o).addText w o' = nest.addText (v ++ w) o := by
  obtain ⟨current, frames⟩ := nest
  match current with
  | .literal s start :: rest =>
      show (⟨.literal (s ++ v ++ w) start :: rest, frames⟩ : Nest) = _
      rw [List.append_assoc]
      rfl
  | [] | .simple .. :: _ | .iteration .. :: _ => rfl
  | .justification .. :: _ | .escape .. :: _ | .group .. :: _ => rfl

/-- Pieces that come to the same do so behind a piece. -/
theorem Nest.steps_cons_congr {ps qs : List Piece}
    (h : ∀ nest : Nest, nest.steps ps = nest.steps qs) (nest : Nest)
    (piece : Piece) :
    nest.steps (piece :: ps) = nest.steps (piece :: qs) := by
  simp only [Nest.steps, h]

/-- And behind several. -/
theorem Nest.steps_append_congr {ps qs : List Piece}
    (h : ∀ nest : Nest, nest.steps ps = nest.steps qs) (nest : Nest)
    (before : List Piece) :
    nest.steps (before ++ ps) = nest.steps (before ++ qs) := by
  induction before generalizing nest with
  | nil => exact h nest
  | cons piece before ih => exact Nest.steps_cons_congr ih nest piece

/-- Two spellings one behind the other, if the seam holds. The pieces are
those of both, except that text which goes on is one piece. -/
theorem Spelling.append {o : Nat} {s t : Text} {ps qs : List Piece}
    (hs : Spelling registry o s ps)
    (ht : Spelling registry (o + s.length) t qs)
    (hseam : Seam registry o s t) :
    ∃ rs, Spelling registry o (s ++ t) rs
      ∧ ∀ nest : Nest, nest.steps rs = nest.steps (ps ++ qs) := by
  induction hs with
  | nil => exact ⟨qs, ht, fun _ => rfl⟩
  | @text o v rest ps hv htilde hfresh hrest ih =>
      rw [List.length_append, ← Nat.add_assoc] at ht
      obtain ⟨rs, hrs, hsteps⟩ := ih ht (hseam.rest
        fun u _ _ hu hspelling => ⟨_, .text hv htilde
          (hu ▸ hfresh).of_append hspelling⟩)
      rw [List.append_assoc]
      by_cases hnil : rest = []
      · subst hnil
        cases hrest.eq_nil
        rcases ht.fresh_or_text with hfresh' |
          ⟨w, rest, qs, rfl, rfl, htilde', hfresh', hrest'⟩
        · exact ⟨_, .text hv htilde hfresh' hrs, fun nest =>
            Nest.steps_cons_congr hsteps nest _⟩
        · refine ⟨.text (v ++ w) o :: qs, ?_, fun nest => ?_⟩
          · rw [List.nil_append, ← List.append_assoc]
            refine .text (List.append_ne_nil_of_left_ne_nil hv w)
              (List.not_mem_append htilde htilde') hfresh' ?_
            rwa [List.length_append, ← Nat.add_assoc]
          · show Nest.steps (nest.addText (v ++ w) o) qs = _
            rw [← Nest.addText_addText nest v w o]
            rfl
      · exact ⟨_, .text hv htilde (hfresh.append hnil) hrs, fun nest =>
          Nest.steps_cons_congr hsteps nest _⟩
  | directive hpiece hallowed _ ih =>
      rw [List.length_append, ← Nat.add_assoc] at ht
      obtain ⟨rs, hrs, hsteps⟩ := ih ht (hseam.rest
        fun _ _ _ _ hspelling => ⟨_, .directive hpiece hallowed hspelling⟩)
      rw [List.append_assoc]
      exact ⟨_, .directive hpiece hallowed hrs, fun nest =>
        Nest.steps_cons_congr hsteps nest _⟩
  | @join o modifiers w rest ps hjoin _ ih =>
      rw [List.length_append, ← Nat.add_assoc] at ht
      obtain ⟨rs, hrs, hsteps⟩ := ih ht (hseam.rest
        fun u _ _ hu hspelling => ⟨_, .join (hjoin.congr
          fun hcolon => (hu ▸ hjoin.stops hcolon).of_append) hspelling⟩)
      rw [List.append_assoc, List.append_assoc]
      refine ⟨_, .join (hjoin.congr fun hcolon => ?_) hrs, fun nest =>
        Nest.steps_append_congr hsteps nest _⟩
      refine (hjoin.stops hcolon).append fun hnil => ?_
      subst hnil
      rw [List.append_nil] at hseam
      exact hseam ⟨[], [], modifiers, w, rfl, .nil, hjoin, hcolon⟩

-- ========================================================= joined trees

/-- One more node behind a sequence, last first; text goes on with text
in front of it. -/
def addNode (current : List Node) : Node → List Node
  | .literal t position =>
    (Nest.addText ⟨current, []⟩ t position).current
  | node => node :: current

/-- A sequence on top of another, both last first. -/
def stacked (base nodes : List Node) : List Node :=
  nodes.foldr (fun node below => addNode below node) base

/-- Two trees one behind the other. -/
def joined (tree later : List Node) : List Node :=
  (later.foldl addNode tree.reverse).reverse

/-- What is stacked is added node by node, the earliest first. -/
theorem stacked_reverse (base later : List Node) :
    stacked base later.reverse = later.foldl addNode base := by
  rw [stacked, List.foldr_reverse]

/-- Text is added as a literal. -/
theorem Nest.addText_eq_addNode (current : List Node)
    (frames : List Frame) (t : Text) (o : Nat) :
    (⟨current, frames⟩ : Nest).addText t o
      = ⟨addNode current (.literal t o), frames⟩ := by
  match current with
  | [] | .literal .. :: _ | .simple .. :: _ | .iteration .. :: _ => rfl
  | .justification .. :: _ | .escape .. :: _ | .group .. :: _ => rfl

/-- Text goes on the same below which it is stacked. -/
theorem stacked_addText (base current : List Node) (t : Text) (o : Nat) :
    stacked base (addNode current (.literal t o))
      = addNode (stacked base current) (.literal t o) := by
  match current with
  | .literal s start :: rest =>
      have htwice := Nest.addText_addText ⟨stacked base rest, []⟩ s t
        start o
      simp only [Nest.addText_eq_addNode] at htwice
      exact (congrArg Nest.current htwice).symm
  | [] | .simple .. :: _ | .iteration .. :: _ => rfl
  | .justification .. :: _ | .escape .. :: _ | .group .. :: _ => rfl

/-- A node that is no text goes on top. -/
theorem addNode_of_not_literal {node : Node}
    (h : node.isLiteral = false) (current : List Node) :
    addNode current node = node :: current := by
  cases node with
  | literal => cases h
  | simple | iteration | justification | escape | group => rfl

/-- A sequence with another below it if nothing is open around it. -/
def sequenceOnto (base nodes : List Node) (outer : List Frame) :
    List Node :=
  if outer.isEmpty then stacked base nodes else nodes

/-- Open constructs with a sequence below everything. -/
def framesOnto (base : List Node) : List Frame → List Frame
  | [] => []
  | frame :: outer =>
    { frame with before := sequenceOnto base frame.before outer }
      :: framesOnto base outer

/-- A nest with a sequence below everything in it. -/
def Nest.onto (base : List Node) (nest : Nest) : Nest :=
  ⟨sequenceOnto base nest.current nest.frames,
    framesOnto base nest.frames⟩

/-- Nodes in front open no construct. -/
theorem length_framesOnto (base : List Node) (frames : List Frame) :
    (framesOnto base frames).length = frames.length := by
  induction frames with
  | nil => rfl
  | cons frame outer ih => rw [framesOnto, List.length_cons, ih,
      List.length_cons]

/-- Only a literal can join the text in front. -/
theorem sequenceOnto_cons {node : Node} (h : node.isLiteral = false)
    (base nodes : List Node) (outer : List Frame) :
    sequenceOnto base (node :: nodes) outer
      = node :: sequenceOnto base nodes outer := by
  unfold sequenceOnto
  split
  · exact addNode_of_not_literal h _
  · rfl

/-- A node is added in the innermost construct, whatever stands in front of
all. -/
theorem Nest.onto_add {node : Node} (h : node.isLiteral = false)
    (base : List Node) (nest : Nest) :
    (nest.onto base).add node = (nest.add node).onto base := by
  simp only [Nest.onto, Nest.add, sequenceOnto_cons h]

/-- So is a text. -/
theorem Nest.onto_addText (base : List Node) (nest : Nest) (t : Text)
    (o : Nat) :
    (nest.onto base).addText t o = (nest.addText t o).onto base := by
  obtain ⟨current, frames⟩ := nest
  simp only [Nest.onto, Nest.addText_eq_addNode, sequenceOnto]
  split
  · rw [stacked_addText]
  · rfl

/-- What closes is no text. -/
theorem Nest.close_not_literal {frame : Frame} {last : List Node}
    {closer : Clause} {node : Node}
    (h : Nest.close frame last closer = .ok node) :
    node.isLiteral = false := by
  unfold Nest.close at h
  split at h
  · split at h
    · cases h
    · cases h
      rfl
  · cases h
    rfl

/-- Pieces do not notice what is below the nest. -/
theorem Nest.step_onto {nest next : Nest} {piece : Piece}
    (base : List Node) (h : nest.step piece = .ok next) :
    (nest.onto base).step piece = .ok (next.onto base) := by
  cases piece with
  | text t o =>
      cases h
      exact congrArg Except.ok (nest.onto_addText base t o)
  | simple kind clause =>
      cases h
      exact congrArg Except.ok (nest.onto_add rfl base)
  | opener shape clause =>
      cases h
      rfl
  | escape clause =>
      simp only [Nest.step] at h
      split at h
      · cases h
      · next hcheck =>
        cases h
        obtain ⟨current, frames⟩ := nest
        have hcheck' : Nest.checkEscape (Nest.onto base ⟨current, frames⟩)
            clause = .ok () := by
          cases frames with
          | nil => cases hcheck
          | cons frame outer => exact hcheck
        have hlength : (Nest.onto base ⟨current, frames⟩).frames.length
            = frames.length := length_framesOnto base frames
        simp only [Nest.step, hcheck', hlength]
        exact congrArg Except.ok (Nest.onto_add rfl base _)
  | separator clause =>
      obtain ⟨current, frames⟩ := nest
      simp only [Nest.step] at h
      split at h
      · next frame outer =>
        split at h
        · next hshape =>
          cases h
          simp only [Nest.step, Nest.onto, framesOnto, hshape, if_true]
          rfl
        · cases h
      · cases h
  | closer shape clause =>
      obtain ⟨current, frames⟩ := nest
      simp only [Nest.step] at h
      split at h
      · cases h
      · next frame outer =>
        split at h
        · cases h
        · next hshape =>
          split at h
          · cases h
          · next node hclose =>
            cases h
            have hclose' : Nest.close
                { frame with before := sequenceOnto base frame.before outer }
                current.reverse clause = .ok node := hclose
            simp only [Nest.step, Nest.onto, framesOnto]
            rw [if_neg hshape]
            simp only [sequenceOnto, List.isEmpty_cons,
              Bool.false_eq_true, if_false] at hclose' ⊢
            simp only [hclose']
            exact congrArg Except.ok (Nest.onto_add
              (Nest.close_not_literal hclose) base ⟨frame.before, outer⟩)

/-- And so pieces come to the same with nodes in front. -/
theorem Nest.steps_onto {nest last : Nest} {ps : List Piece}
    (base : List Node) (h : nest.steps ps = .ok last) :
    (nest.onto base).steps ps = .ok (last.onto base) := by
  induction ps generalizing nest with
  | nil =>
      cases h
      rfl
  | cons piece ps ih =>
      rw [Nest.steps] at h
      split at h
      · cases h
      · next next hstep =>
        rw [Nest.steps, Nest.step_onto base hstep]
        exact ih h

/-- Two templates one behind the other are read as their trees one behind
the other. -/
theorem parse_joined {s t : Text} {tree later : List Node}
    (hs : parse (.builtin settings) s = .ok tree)
    (ht : parse (.builtin settings) t = .ok later)
    (hseam : Seam (.builtin settings) 0 s t) :
    parse (.builtin settings) (s ++ t)
      = .ok (joined tree (moved (· + s.length) later)) := by
  obtain ⟨ps, nest, hread, hsteps, hfinish⟩ := readPieces_of_parse hs
  obtain ⟨qs, nest', hread', hsteps', hfinish'⟩ := readPieces_of_parse ht
  cases Nest.finish_eq_ok_iff.mp hfinish
  cases Nest.finish_eq_ok_iff.mp hfinish'
  obtain ⟨rs, hrs, hall⟩ := (readPieces_eq_iff.mp hread).append
    ((readPieces_eq_iff.mp hread').shift s.length) hseam
  rw [parse_of_readPieces (readPieces_of_spelling hrs), hall,
    Nest.steps_append hsteps]
  have hlater : Nest.steps ⟨tree.reverse, []⟩
        (qs.map (Piece.moved (· + s.length)))
      = .ok (Nest.onto tree.reverse
          (Nest.moved (· + s.length) ⟨later.reverse, []⟩)) :=
    Nest.steps_onto tree.reverse (Nest.steps_moved _ hsteps')
  rw [hlater]
  simp only [Nest.onto, Nest.moved, moved_reverse, sequenceOnto,
    stacked_reverse, Nest.finish, joined]
  rfl

end TildeFormat
