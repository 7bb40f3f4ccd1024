/-
Where the directives of a tree come from. Reading puts pieces together and
makes up nothing: whatever stands in the tree with a clause, one-step
directive, escape or construct, is a directive among the pieces, and so it
is written out in the template, behind as many characters as its clause
says.

A construct is in the tree by the directive that opens it. While it is
open its clause waits in a frame, so a nest holds the directives of its
current sequence and of all its frames, and a piece adds at most its own:
`Nest.Holds.step`.
-/
import TildeFormat.Proofs.Template.Nesting
import TildeFormat.Proofs.Template.Reading.Pieces

namespace TildeFormat

-- ================================================ directives of a tree

mutual

/-- The directives of a node, by letter and clause; those that close or
part a construct are not in a tree. -/
def Node.directives : Node → List (Character × Clause)
  | .literal _ _ => []
  | .simple kind clause => [(kind.letter, clause)]
  | .iteration body _ clause =>
    (Shape.iteration.opener, clause) :: directives body
  | .justification segments clause =>
    (Shape.justification.opener, clause) :: segmentDirectives segments
  | .escape _ clause => [('^', clause)]
  | .group items => directives items

/-- The directives of a tree. -/
def directives : List Node → List (Character × Clause)
  | [] => []
  | node :: rest => node.directives ++ directives rest

/-- The directives of segments. -/
def segmentDirectives : List (List Node) → List (Character × Clause)
  | [] => []
  | segment :: rest => directives segment ++ segmentDirectives rest

end

/-- The directives of nodes are those of each node. -/
theorem mem_directives {d : Character × Clause} {nodes : List Node} :
    d ∈ directives nodes ↔ ∃ node ∈ nodes, d ∈ node.directives := by
  induction nodes with
  | nil => simp [directives]
  | cons node nodes ih => simp [directives, ih]

/-- And those of segments are those of each segment. -/
theorem mem_segmentDirectives {d : Character × Clause}
    {segments : List (List Node)} :
    d ∈ segmentDirectives segments
      ↔ ∃ segment ∈ segments, d ∈ directives segment := by
  induction segments with
  | nil => simp [segmentDirectives]
  | cons segment segments ih => simp [segmentDirectives, ih]

theorem mem_directives_reverse {d : Character × Clause} {nodes : List Node} :
    d ∈ directives nodes.reverse ↔ d ∈ directives nodes := by
  simp only [mem_directives, List.mem_reverse]

-- ================================================ directives of a nest

/-- A directive has come into an open construct, or opened it. -/
def Frame.Holds (frame : Frame) (d : Character × Clause) : Prop :=
  d = (frame.shape.opener, frame.clause)
    ∨ d ∈ segmentDirectives frame.closed ∨ d ∈ directives frame.before

/-- A directive has come into a nest. -/
def Nest.Holds (nest : Nest) (d : Character × Clause) : Prop :=
  d ∈ directives nest.current ∨ ∃ frame ∈ nest.frames, frame.Holds d

variable {d : Character × Clause}

/-- Text brings no directive. -/
theorem Nest.holds_addText {nest : Nest} {t : Text} {o : Nat}
    (h : (nest.addText t o).Holds d) : nest.Holds d := by
  obtain ⟨current, frames⟩ := nest
  match current with
  | [] | .literal .. :: _ | .simple .. :: _ | .iteration .. :: _ => exact h
  | .justification .. :: _ | .escape .. :: _ | .group .. :: _ => exact h

/-- A node brings its own directives. -/
theorem Nest.holds_add {nest : Nest} {node : Node}
    (h : (nest.add node).Holds d) :
    d ∈ node.directives ∨ nest.Holds d := by
  rcases h with hcurrent | hframes
  · rcases List.mem_append.mp hcurrent with hnode | hold
    · exact .inl hnode
    · exact .inr (.inl hold)
  · exact .inr (.inr hframes)

/-- A construct holds the directives of a part that is closed in it, and
those it held before. -/
theorem Frame.holds_part {frame : Frame} {last : List Node}
    (h : Frame.Holds { frame with closed := last :: frame.closed } d) :
    d ∈ directives last ∨ frame.Holds d := by
  rcases h with rfl | hclosed | hbefore
  · exact .inr (.inl rfl)
  · rcases List.mem_append.mp hclosed with hlast | hclosed
    · exact .inl hlast
    · exact .inr (.inr (.inl hclosed))
  · exact .inr (.inr (.inr hbefore))

/-- A construct that is closed has what came into it. -/
theorem mem_directives_of_close {frame : Frame} {last : List Node}
    {closer : Clause} {node : Node}
    (h : Nest.close frame last closer = .ok node)
    (hd : d ∈ node.directives) :
    d ∈ directives last ∨ frame.Holds d := by
  obtain ⟨shape, clause, closed, before⟩ := frame
  cases shape with
  | iteration =>
      simp only [Nest.close] at h
      split at h
      · cases h
      · cases h
        rcases List.mem_cons.mp hd with rfl | hbody
        · exact .inr (.inl rfl)
        · exact .inl hbody
  | justification =>
      simp only [Nest.close] at h
      cases h
      rcases List.mem_cons.mp hd with rfl | hsegments
      · exact .inr (.inl rfl)
      · obtain ⟨segment, hsegment, hin⟩ :=
          mem_segmentDirectives.mp hsegments
        rcases List.mem_cons.mp (List.mem_reverse.mp hsegment) with
          rfl | hclosed
        · exact .inl hin
        · exact .inr (.inr (.inl
            (mem_segmentDirectives.mpr ⟨segment, hclosed, hin⟩)))

/-- A piece adds no directive but its own. -/
theorem Nest.holds_step {nest next : Nest} {piece : Piece}
    (h : nest.step piece = .ok next) (hd : next.Holds d) :
    nest.Holds d ∨ piece.directive? = some d := by
  cases piece with
  | text t o =>
      cases h
      exact .inl (Nest.holds_addText hd)
  | simple kind clause =>
      cases h
      rcases Nest.holds_add hd with hnode | hnest
      · exact .inr (congrArg some (List.mem_singleton.mp hnode).symm)
      · exact .inl hnest
  | opener shape clause =>
      cases h
      rcases hd with hnone | ⟨frame, hframe, hin⟩
      · cases hnone
      · rcases List.mem_cons.mp hframe with rfl | hframe
        · rcases hin with rfl | hnone | hbefore
          · exact .inr rfl
          · cases hnone
          · exact .inl (.inl hbefore)
        · exact .inl (.inr ⟨frame, hframe, hin⟩)
  | closer shape clause =>
      obtain ⟨current, frames⟩ := nest
      simp only [Nest.step] at h
      split at h
      · cases h
      · next frame frames =>
        split at h
        · cases h
        · split at h
          · cases h
          · next node hclose =>
            cases h
            -- a closer is no directive of the tree
            left
            rcases hd with hcurrent | ⟨outer, houter, hin⟩
            · rcases List.mem_append.mp hcurrent with hnode | hbefore
              · rcases mem_directives_of_close hclose hnode with
                  hlast | hframe
                · exact .inl (mem_directives_reverse.mp hlast)
                · exact .inr ⟨frame, List.mem_cons_self, hframe⟩
              · exact .inr ⟨frame, List.mem_cons_self, .inr (.inr hbefore)⟩
            · exact .inr ⟨outer, List.mem_cons_of_mem _ houter, hin⟩
  | separator clause =>
      obtain ⟨current, frames⟩ := nest
      simp only [Nest.step] at h
      split at h
      · next frame frames =>
        split at h
        · cases h
          left
          rcases hd with hnone | ⟨other, hother, hin⟩
          · cases hnone
          · rcases List.mem_cons.mp hother with rfl | hother
            · rcases Frame.holds_part hin with hlast | hframe
              · exact .inl (mem_directives_reverse.mp hlast)
              · exact .inr ⟨frame, List.mem_cons_self, hframe⟩
            · exact .inr ⟨other, List.mem_cons_of_mem _ hother, hin⟩
        · cases h
      · cases h
  | escape clause =>
      simp only [Nest.step] at h
      split at h
      · cases h
      · cases h
        rcases Nest.holds_add hd with hnode | hnest
        · exact .inr (congrArg some (List.mem_singleton.mp hnode).symm)
        · exact .inl hnest

/-- A directive of what pieces were put together to comes from one of the
pieces. -/
theorem Nest.holds_steps {nest last : Nest} {ps : List Piece}
    (h : nest.steps ps = .ok last) (hd : last.Holds d) :
    nest.Holds d ∨ ∃ piece ∈ ps, piece.directive? = some d := by
  induction ps generalizing nest with
  | nil =>
      cases h
      exact .inl hd
  | cons piece ps ih =>
      rw [Nest.steps] at h
      split at h
      · cases h
      · next next hstep =>
        rcases ih h with hnext | ⟨later, hlater, heq⟩
        · rcases Nest.holds_step hstep hnext with hnest | heq
          · exact .inl hnest
          · exact .inr ⟨piece, List.mem_cons_self, heq⟩
        · exact .inr ⟨later, List.mem_cons_of_mem _ hlater, heq⟩

/-- A directive of a tree is one of the pieces the tree was read from. -/
theorem exists_piece_of_parse {registry : Registry} {t : Text}
    {tree : List Node} (h : parse registry t = .ok tree)
    (hd : d ∈ directives tree) :
    ∃ ps, readPieces registry ⟨0, t⟩ = ⟨ps, none⟩
      ∧ ∃ piece ∈ ps, piece.directive? = some d := by
  obtain ⟨ps, nest, hread, hsteps, hfinish⟩ := readPieces_of_parse h
  cases Nest.finish_eq_ok_iff.mp hfinish
  refine ⟨ps, hread, ?_⟩
  have hlast : Nest.Holds ⟨tree.reverse, []⟩ d :=
    .inl (mem_directives_reverse.mpr hd)
  rcases Nest.holds_steps hsteps hlast with hempty | hpiece
  · rcases hempty with hcurrent | ⟨frame, hframe, -⟩
    · cases hcurrent
    · cases hframe
  · exact hpiece

-- ==================================================== their source text

/-- A piece is a directive that is written out in a text, which starts at
an offset. -/
def Piece.WrittenIn (piece : Piece) (o : Nat) (t : Text) : Prop :=
  ∃ before w after, t = before ++ (w ++ after)
    ∧ piece.Spelling (o + before.length) w

/-- What is written in a text is written behind what comes before it. -/
theorem Piece.WrittenIn.behind {piece : Piece} {o : Nat} {seen t : Text}
    (h : piece.WrittenIn (o + seen.length) t) :
    piece.WrittenIn o (seen ++ t) := by
  obtain ⟨before, w, after, rfl, hspelled⟩ := h
  refine ⟨seen ++ before, w, after, by simp, ?_⟩
  rw [List.length_append, ← Nat.add_assoc]
  exact hspelled

/-- A directive among the pieces of a text is written out in it. -/
theorem Spelling.writtenIn {registry : Registry} {o : Nat} {t : Text}
    {ps : List Piece} (h : Spelling registry o t ps) {piece : Piece}
    (hpiece : piece ∈ ps) (hd : piece.directive? = some d) :
    piece.WrittenIn o t := by
  induction h with
  | nil => cases hpiece
  | text ht htilde hfresh hrest ih =>
      rcases List.mem_cons.mp hpiece with rfl | hpiece
      · cases hd
      · exact (ih hpiece).behind
  | directive hspelled hallowed hrest ih =>
      rcases List.mem_cons.mp hpiece with rfl | hpiece
      · exact ⟨[], _, _, rfl, hspelled⟩
      · exact (ih hpiece).behind
  | @join o modifiers w rest pieces hjoin hrest ih =>
      rcases List.mem_append.mp hpiece with hkept | hpiece
      · unfold keptBreak at hkept
        split at hkept
        · cases List.mem_singleton.mp hkept
          cases hd
        · cases hkept
      · exact (ih hpiece).behind

end TildeFormat
