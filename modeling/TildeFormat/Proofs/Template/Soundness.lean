/-
Reading keeps everything: whatever template is read as a tree, the tree
is well formed and the template is a spelling of the tree's print.

The print of a nest is what has been read so far, canonically: of every
open construct the nodes in front of it, its opener and its closed
segments, and then the current sequence. A piece that goes into the nest
appends its own print to that, so nothing read is lost, doubled or put in
another place. In the same steps the nest stays well formed: each of its
sequences is, at the depth it is at.
-/
import TildeFormat.Proofs.Template.Nesting
import TildeFormat.Proofs.Template.Printing
import TildeFormat.Proofs.Template.Reading.Pieces

namespace TildeFormat

variable {settings : Settings}

-- ========================================================= sound pieces

/-- A piece a template can have: an allowed directive, or text that is
neither empty nor has a tilde. -/
structure Piece.Sound (registry : Registry) (piece : Piece) : Prop where
  allowed : piece.Allowed registry
  text : ∀ t o, piece = .text t o → t ≠ [] ∧ .scalar '~' ∉ t

/-- Every piece of a spelling is sound: the registry has its directive and
allows its clause. -/
theorem Spelling.sound {registry : Registry} {o : Nat} {t : Text}
    {ps : List Piece} (h : Spelling registry o t ps) :
    ∀ piece ∈ ps, piece.Sound registry := by
  have hsound {t : Text} {o : Nat} (ht : t ≠ [] ∧ .scalar '~' ∉ t) :
      (Piece.text t o).Sound registry := by
    refine ⟨nofun, ?_⟩
    intro t' o' heq
    cases heq
    exact ht
  induction h with
  | nil => exact List.forall_mem_nil _
  | text ht htilde _ _ ih =>
      exact List.forall_mem_cons.mpr ⟨hsound ⟨ht, htilde⟩, ih⟩
  | directive hpiece hallowed _ ih =>
      refine List.forall_mem_cons.mpr ⟨⟨hallowed, ?_⟩, ih⟩
      rintro t o rfl
      obtain ⟨_, _, _, hdirective, _⟩ := hpiece
      cases hdirective
  | @join _ modifiers _ _ _ _ _ ih =>
      intro piece hmem
      rcases List.mem_append.mp hmem with hkept | hmem
      · unfold keptBreak at hkept
        split at hkept
        · cases List.mem_singleton.mp hkept
          exact hsound (by decide)
        · cases hkept
      · exact ih piece hmem

-- ===================================================== closing brackets

/-- What closes or separates has no parameters, and no modifier but the
colon of an iteration's closer. -/
theorem eq_of_admits_nil {spec : Spec} {clause : Clause}
    (h : spec.Admits clause) (hparams : spec.params = [])
    (hat : spec.modifiers.atSign = false) :
    clause.params = [] ∧ clause.modifiers.atSign = false := by
  constructor
  · have hcount := h.count
    rw [hparams] at hcount
    exact List.length_eq_zero_iff.mp (Nat.le_zero.mp hcount)
  · cases hm : clause.modifiers.atSign with
    | false => rfl
    | true => rw [h.within.2 hm] at hat; cases hat

/-- The end of an iteration has nothing of its own but a colon. -/
theorem print_iterationEnd {clause : Clause}
    (h : (Registry.builtin settings).Allows Shape.iteration.closer
      clause) :
    clause.print Shape.iteration.closer
      = (iterationEnd clause.modifiers.colon).print
          Shape.iteration.closer := by
  obtain ⟨-, spec, hspec, hadmits⟩ := h
  cases hspec
  obtain ⟨hparams, hat⟩ := eq_of_admits_nil hadmits rfl rfl
  simp only [Clause.print, hparams, Modifiers.text, hat, iterationEnd]
  rfl

/-- The end of a justification and a separator are just their letters. -/
theorem print_of_admits_none {spec : Spec} {clause : Clause}
    (h : spec.Admits clause) (hparams : spec.params = [])
    (hmodifiers : spec.modifiers = {}) (letter : Character) :
    clause.print letter = Clause.print {} letter := by
  obtain ⟨hnil, hat⟩ := eq_of_admits_nil h hparams (by rw [hmodifiers])
  have hcolon : clause.modifiers.colon = false := by
    cases hm : clause.modifiers.colon with
    | false => rfl
    | true =>
        have := h.within.1 hm
        rw [hmodifiers] at this
        cases this
  simp only [Clause.print, hnil, Modifiers.text, hat, hcolon]

/-- The end of a justification has nothing of its own. -/
theorem print_justificationEnd {clause : Clause}
    (h : (Registry.builtin settings).Allows Shape.justification.closer
      clause) :
    clause.print Shape.justification.closer
      = Clause.print {} Shape.justification.closer := by
  obtain ⟨-, spec, hspec, hadmits⟩ := h
  cases hspec
  exact print_of_admits_none hadmits rfl rfl _

/-- Nor has a separator. -/
theorem print_separator {clause : Clause}
    (h : (Registry.builtin settings).Allows ';' clause) :
    clause.print ';' = Clause.print {} ';' := by
  obtain ⟨-, spec, hspec, hadmits⟩ := h
  cases hspec
  exact print_of_admits_none hadmits rfl rfl _

-- ==================================================== the print of a nest

/-- Nodes are printed one behind the other. -/
theorem print_append (nodes rest : List Node) :
    print (nodes ++ rest) = print nodes ++ print rest := by
  induction nodes with
  | nil => rfl
  | cons node nodes ih =>
      show node.print ++ print (nodes ++ rest) = _
      rw [ih, ← List.append_assoc]
      rfl

/-- Closed segments, a separator behind each. -/
def printClosed (segments : List (List Node)) : Text :=
  segments.flatMap fun segment => print segment ++ Clause.print {} ';'

/-- Segments are printed with a separator behind all but the last. -/
theorem printSegments_concat (segments : List (List Node))
    (last : List Node) :
    printSegments (segments ++ [last])
      = printClosed segments ++ print last := by
  induction segments with
  | nil => simp [printSegments, separation, printClosed]
  | cons segment segments ih =>
      rw [List.cons_append, printSegments, ih]
      have hsep : separation (segments ++ [last])
          = Clause.print {} ';' := by
        simp [separation]
      rw [hsep, printClosed, printClosed, List.flatMap_cons]
      simp only [List.append_assoc]

/-- What has been read of an open construct and in front of it. -/
def Frame.print (frame : Frame) : Text :=
  TildeFormat.print frame.before.reverse
    ++ (frame.clause.print frame.shape.opener
      ++ printClosed frame.closed.reverse)

/-- What has been read so far. -/
def Nest.print (nest : Nest) : Text :=
  nest.frames.reverse.flatMap Frame.print
    ++ TildeFormat.print nest.current.reverse

/-- A node that is added is printed behind all others. -/
theorem Nest.print_add (nest : Nest) (node : Node) :
    (nest.add node).print = nest.print ++ node.print := by
  simp only [Nest.print, Nest.add, List.reverse_cons, print_append,
    List.append_assoc]
  simp [TildeFormat.print]

/-- So is a text, also where it is joined to the one before it. -/
theorem Nest.print_addText (nest : Nest) (t : Text) (o : Nat) :
    (nest.addText t o).print = nest.print ++ t := by
  obtain ⟨current, frames⟩ := nest
  unfold Nest.addText
  split
  · next s start rest hcurrent =>
    cases hcurrent
    simp only [Nest.print, List.reverse_cons, print_append,
      List.append_assoc]
    simp [TildeFormat.print, Node.print]
  · exact Nest.print_add ⟨current, frames⟩ (.literal t o)

/-- An open construct is printed from its opener on, up to where it stands
open. -/
theorem Nest.print_cons (current : List Node) (frame : Frame)
    (frames : List Frame) :
    (⟨current, frame :: frames⟩ : Nest).print
      = (⟨frame.before, frames⟩ : Nest).print
        ++ (frame.clause.print frame.shape.opener
          ++ (printClosed frame.closed.reverse
            ++ TildeFormat.print current.reverse)) := by
  simp [Nest.print, Frame.print]

-- ======================================================== well-formed nests

/-- A well-formed open construct with `depth` constructs around it. An
iteration has no segments to close. -/
structure Frame.WellFormed (registry : Registry) (depth : Nat)
    (direct : Bool) (frame : Frame) : Prop where
  opener : registry.Allows frame.shape.opener frame.clause
  closed : SegmentsWellFormed registry (depth + 1) frame.closed.reverse
  single : frame.shape = .iteration → frame.closed = []
  before : TildeFormat.WellFormed registry depth direct
    frame.before.reverse

/-- Well-formed open constructs, innermost first. -/
def FramesWellFormed (registry : Registry) : List Frame → Prop
  | [] => True
  | frame :: outer =>
    frame.WellFormed registry outer.length (directIn outer)
      ∧ FramesWellFormed registry outer

/-- A nest whose sequences are all well formed where they are. -/
structure Nest.WellFormed (registry : Registry) (nest : Nest) : Prop where
  frames : FramesWellFormed registry nest.frames
  current : TildeFormat.WellFormed registry nest.frames.length
    (directIn nest.frames) nest.current.reverse

/-- A well-formed node may be added. -/
theorem Nest.WellFormed.add {registry : Registry} {nest : Nest}
    {node : Node} (h : nest.WellFormed registry)
    (hnode : node.WellFormed registry nest.frames.length
      (directIn nest.frames))
    (hliteral : node.isLiteral = false) :
    (nest.add node).WellFormed registry := by
  refine ⟨h.frames, ?_⟩
  show TildeFormat.WellFormed _ _ _ (node :: nest.current).reverse
  rw [List.reverse_cons]
  exact h.current.concat hnode hliteral

/-- So may a text, which joins the one before it. -/
theorem Nest.WellFormed.addText {registry : Registry} {nest : Nest}
    {t : Text} (h : nest.WellFormed registry) (ht : t ≠ [] ∧ .scalar '~' ∉ t)
    (o : Nat) : (nest.addText t o).WellFormed registry := by
  obtain ⟨current, frames⟩ := nest
  obtain ⟨hframes, hcurrent⟩ := h
  cases hstart : startsLiteral current with
  | false =>
      rw [Nest.addText_of_not_startsLiteral hstart]
      refine ⟨hframes, ?_⟩
      show TildeFormat.WellFormed _ _ _ (_ :: current).reverse
      rw [List.reverse_cons, wellFormed_append_iff]
      refine ⟨hcurrent, ⟨ht, fun _ => rfl, trivial⟩, ?_⟩
      intro hlast
      rw [List.getLast?_reverse] at hlast
      exact absurd (hlast.symm.trans hstart) (by decide)
  | true =>
      match current with
      | .literal s start :: rest =>
          refine ⟨hframes, ?_⟩
          rw [List.reverse_cons, wellFormed_append_iff] at hcurrent
          obtain ⟨hrest, ⟨hs, -⟩, hparted⟩ := hcurrent
          show TildeFormat.WellFormed _ _ _
            (.literal (s ++ t) start :: rest).reverse
          rw [List.reverse_cons, wellFormed_append_iff]
          refine ⟨hrest, ⟨⟨?_, ?_⟩, fun _ => rfl, trivial⟩, hparted⟩
          · exact List.append_ne_nil_of_left_ne_nil hs.1 t
          · exact List.not_mem_append hs.2 ht.2

/-- A closed construct is a well-formed node, printed as what has been
read of it and its closer. -/
theorem Nest.close_sound {frame : Frame} {frames : List Frame}
    {last : List Node} {closer : Clause} {node : Node}
    (hframe : frame.WellFormed (.builtin settings) frames.length
      (directIn frames))
    (hlast : TildeFormat.WellFormed (.builtin settings)
      (frames.length + 1) (directIn (frame :: frames)) last)
    (hallows : (Registry.builtin settings).Allows frame.shape.closer
      closer)
    (h : Nest.close frame last closer = .ok node) :
    node.WellFormed (.builtin settings) frames.length (directIn frames)
      ∧ node.isLiteral = false
      ∧ node.print = frame.clause.print frame.shape.opener
          ++ (printClosed frame.closed.reverse
            ++ (TildeFormat.print last
              ++ closer.print frame.shape.closer)) := by
  obtain ⟨shape, clause, closed, before⟩ := frame
  cases shape with
  | iteration =>
      cases hframe.single rfl
      simp only [Nest.close] at h
      split at h
      · cases h
      · next hne =>
        cases h
        refine ⟨⟨hframe.opener, ?_, hlast⟩, rfl, ?_⟩
        · exact fun hnil => hne (List.isEmpty_iff.mpr hnil)
        · rw [Node.print, print_iterationEnd hallows]
          rfl
  | justification =>
      simp only [Nest.close] at h
      cases h
      refine ⟨⟨hframe.opener, by simp, ?_⟩, rfl, ?_⟩
      · rw [List.reverse_cons]
        exact segmentsWellFormed_append hframe.closed ⟨hlast, trivial⟩
      · rw [Node.print, print_justificationEnd hallows, List.reverse_cons,
          printSegments_concat, List.append_assoc]

/-- A nest stays well formed, and a piece appends its print to what has
been read. -/
theorem Nest.WellFormed.step {nest next : Nest} {piece : Piece}
    (h : nest.WellFormed (.builtin settings))
    (hpiece : piece.Sound (.builtin settings))
    (hstep : nest.step piece = .ok next) :
    next.WellFormed (.builtin settings)
      ∧ next.print = nest.print ++ piece.print := by
  cases piece with
  | text t o =>
      cases hstep
      exact ⟨h.addText (hpiece.text t o rfl) o, nest.print_addText t o⟩
  | simple kind clause =>
      cases hstep
      exact ⟨h.add (hpiece.allowed _ _ rfl) rfl, nest.print_add _⟩
  | escape clause =>
      simp only [Nest.step] at hstep
      split at hstep
      · cases hstep
      · next hcheck =>
        cases hstep
        obtain ⟨hpos, hcolon⟩ :=
          (nest.checkEscape_eq_ok_iff clause).mp hcheck
        exact ⟨h.add ⟨hpiece.allowed _ _ rfl, rfl, hpos, hcolon⟩ rfl,
          nest.print_add _⟩
  | opener shape clause =>
      cases hstep
      obtain ⟨current, frames⟩ := nest
      refine ⟨⟨⟨?_, h.frames⟩, trivial⟩, ?_⟩
      · exact ⟨hpiece.allowed _ _ rfl, trivial, fun _ => rfl, h.current⟩
      · rw [Nest.print_cons]
        simp [printClosed, TildeFormat.print, Piece.print]
  | separator clause =>
      obtain ⟨current, frames⟩ := nest
      simp only [Nest.step] at hstep
      split at hstep
      · next frame frames =>
        split at hstep
        · next hshape =>
          cases hstep
          obtain ⟨⟨hframe, hframes⟩, hcurrent⟩ := h
          have hdirect : directIn (frame :: frames) = false := by
            simp [directIn, hshape]
          rw [hdirect] at hcurrent
          refine ⟨⟨⟨⟨hframe.opener, ?_, ?_, hframe.before⟩, hframes⟩,
            trivial⟩, ?_⟩
          · rw [List.reverse_cons]
            exact segmentsWellFormed_append hframe.closed
              ⟨hcurrent, trivial⟩
          · intro hiteration
            rw [hshape] at hiteration
            cases hiteration
          · rw [Nest.print_cons, Nest.print_cons, Piece.print,
              print_separator (hpiece.allowed _ _ rfl)]
            simp [printClosed, TildeFormat.print]
        · cases hstep
      · cases hstep
  | closer shape clause =>
      obtain ⟨current, frames⟩ := nest
      simp only [Nest.step] at hstep
      split at hstep
      · cases hstep
      · next frame frames =>
        split at hstep
        · cases hstep
        · next hshape =>
          split at hstep
          · cases hstep
          · next node hclose =>
            cases hstep
            obtain ⟨⟨hframe, hframes⟩, hcurrent⟩ := h
            have hallows := hpiece.allowed _ _ rfl
            rw [Decidable.not_not] at hshape
            subst hshape
            obtain ⟨hnode, hliteral, hprint⟩ :=
              Nest.close_sound hframe hcurrent hallows hclose
            refine ⟨⟨hframes, ?_⟩, ?_⟩
            · show TildeFormat.WellFormed _ _ _ (_ :: frame.before).reverse
              rw [List.reverse_cons]
              exact hframe.before.concat hnode hliteral
            · have hadd := Nest.print_add ⟨frame.before, frames⟩ node
              rw [Nest.print_cons]
              refine hadd.trans ?_
              rw [hprint]
              simp [Piece.print]

/-- Sound pieces put together are well-formed, and print as they do one by
one. -/
theorem Nest.WellFormed.steps {nest last : Nest} {ps : List Piece}
    (h : nest.WellFormed (.builtin settings))
    (hsound : ∀ piece ∈ ps, piece.Sound (.builtin settings))
    (hsteps : nest.steps ps = .ok last) :
    last.WellFormed (.builtin settings)
      ∧ last.print = nest.print ++ ps.flatMap Piece.print := by
  induction ps generalizing nest with
  | nil =>
      cases hsteps
      exact ⟨h, by simp⟩
  | cons piece ps ih =>
      obtain ⟨hpiece, hrest⟩ := List.forall_mem_cons.mp hsound
      rw [Nest.steps] at hsteps
      split at hsteps
      · cases hsteps
      · next next hstep =>
        obtain ⟨hnext, hprint⟩ := h.step hpiece hstep
        obtain ⟨hlast, hprint'⟩ := ih hnext hrest hsteps
        refine ⟨hlast, ?_⟩
        rw [hprint', hprint, List.append_assoc, List.flatMap_cons]

-- ================================================================= trees

/-- A tree that is read is the nest its pieces leave when everything is
closed. -/
theorem nest_of_parse {t : Text} {tree : List Node}
    (h : parse (.builtin settings) t = .ok tree) :
    ∃ ps, Spelling (.builtin settings) 0 t ps
      ∧ Nest.WellFormed (.builtin settings) ⟨tree.reverse, []⟩
      ∧ Nest.print ⟨tree.reverse, []⟩ = ps.flatMap Piece.print := by
  obtain ⟨ps, nest, hread, hsteps, hfinish⟩ := readPieces_of_parse h
  have hspelling := readPieces_eq_iff.mp hread
  have hempty : Nest.empty.WellFormed (.builtin settings) :=
    ⟨trivial, trivial⟩
  cases Nest.finish_eq_ok_iff.mp hfinish
  exact ⟨ps, hspelling, hempty.steps hspelling.sound hsteps⟩

/-- A tree that is read is well formed. -/
theorem wellFormed_of_parse {t : Text} {tree : List Node}
    (h : parse (.builtin settings) t = .ok tree) :
    WellFormed (.builtin settings) 0 false tree := by
  obtain ⟨ps, -, hwell, -⟩ := nest_of_parse h
  have hcurrent := hwell.current
  rwa [List.reverse_reverse] at hcurrent

/-- A template that is read as a tree is a spelling of the tree's print,
and the tree is well formed. -/
theorem parse_sound {t : Text} {tree : List Node}
    (h : parse (.builtin settings) t = .ok tree) :
    WellFormed (.builtin settings) 0 false tree
      ∧ ∃ ps, Spelling (.builtin settings) 0 t ps
        ∧ print tree = ps.flatMap Piece.print := by
  obtain ⟨ps, hspelling, -, hprint⟩ := nest_of_parse h
  refine ⟨wellFormed_of_parse h, ps, hspelling, ?_⟩
  simpa [Nest.print, TildeFormat.print] using hprint

/-- A joined line, a number with a sign and a zero, modifiers the other
way round, a small letter and a kept line break. -/
def variedTemplate : Text :=
  word "a~\n ~+05,',@:d~@\nb~:\x7b~:^~\x7d~<~;~>"

def variedTree : List Node :=
  [ .literal ['a'] 0,
    .simple .decimal
      ⟨[⟨.integer 5, 5⟩, ⟨.character ',', 9⟩], ⟨true, true⟩, 4⟩,
    .literal ['\n', 'b'] 14,
    .iteration [.escape 1 ⟨[], ⟨true, false⟩, 21⟩] false
      ⟨[], ⟨true, false⟩, 18⟩,
    .justification [[], []] ⟨[], {}, 26⟩ ]

theorem parse_sound_variedTemplate :
    parse .standard variedTemplate = .ok variedTree
      ∧ WellFormed .standard 0 false variedTree
      ∧ ∃ ps, Spelling .standard 0 variedTemplate ps
        ∧ print variedTree = ps.flatMap Piece.print := by
  have hparse : parse .standard variedTemplate = .ok variedTree := by
    with_unfolding_all rfl
  exact ⟨hparse, parse_sound hparse⟩

end TildeFormat
