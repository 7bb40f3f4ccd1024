/-
Plain templates: literal text and one-step directives that take nothing
from the arguments for their parameters. A template that is read as a
plain tree has only pieces that go into a nest in the same way whatever
constructs are open around it, for a construct, once it was opened, is
either open at the end or a node of the tree.

So plain templates can be written into the body of an iteration and are
read there as they are read by themselves. Here this is said of two of
them with an escape between them.
-/
import TildeFormat.Proofs.Render.Spreading
import TildeFormat.Proofs.Template.Brackets
import TildeFormat.Proofs.Template.Joining
import TildeFormat.Proofs.Template.Printing

namespace TildeFormat

variable {settings : Settings} {piece : Piece} {ps : List Piece}
  {nest next last : Nest}

/-- Literal text, or a directive of one step whose parameters ask nothing
of the arguments. -/
def Node.Plain : Node → Prop
  | .literal _ _ => True
  | .simple _ clause => Kept clause.params
  | _ => False

theorem kept_nil : Kept [] := fun _ h => absurd h List.not_mem_nil

/-- Text that goes on with text makes no node that is not plain, and hides
none. -/
theorem plain_addNode_iff {current : List Node} {node : Node} :
    (∀ other ∈ addNode current node, other.Plain)
      ↔ node.Plain ∧ ∀ other ∈ current, other.Plain := by
  cases hliteral : node.isLiteral with
  | false => rw [addNode_of_not_literal hliteral, List.forall_mem_cons]
  | true =>
      match node, current with
      | .literal t o, .literal s start :: rest =>
          rw [List.forall_mem_cons]
          exact List.forall_mem_cons.trans (and_iff_right trivial).symm
      | .literal t o, [] | .literal t o, .simple .. :: _
      | .literal t o, .iteration .. :: _
      | .literal t o, .justification .. :: _
      | .literal t o, .escape .. :: _ | .literal t o, .group .. :: _ =>
          exact List.forall_mem_cons

-- ================================================================= pieces

/-- Nothing open, and nothing but plain nodes. -/
structure Nest.IsPlain (nest : Nest) : Prop where
  frames : nest.frames = []
  current : ∀ node ∈ nest.current, node.Plain

/-- What closes is a construct. -/
theorem Nest.close_not_plain {frame : Frame} {current : List Node}
    {closer : Clause} {node : Node}
    (h : Nest.close frame current closer = .ok node) : ¬node.Plain := by
  unfold Nest.close at h
  split at h
  · split at h
    · cases h
    · cases h
      exact id
  · cases h
    exact id

/-- What a plain nest is made of with its last piece was plain before, and
so is the piece. -/
theorem Nest.isPlain_of_step (h : nest.step piece = .ok next)
    (hnext : next.IsPlain) : nest.IsPlain ∧ piece.isPlain = true := by
  obtain ⟨current, frames⟩ := nest
  obtain ⟨hframes, hcurrent⟩ := hnext
  cases piece with
  | text t o =>
      cases h
      rw [Nest.addText_eq_addNode] at hframes hcurrent
      have hall : ∀ node ∈ addNode current (.literal t o), node.Plain :=
        hcurrent
      exact ⟨⟨hframes, (plain_addNode_iff.mp hall).2⟩, rfl⟩
  | simple kind clause =>
      cases h
      exact ⟨⟨hframes, (List.forall_mem_cons.mp hcurrent).2⟩, rfl⟩
  | opener shape clause =>
      cases h
      cases hframes
  | separator clause =>
      simp only [Nest.step] at h
      split at h
      · split at h
        · cases h
          cases hframes
        · cases h
      · cases h
  | escape clause =>
      simp only [Nest.step] at h
      split at h
      · cases h
      · cases h
        exact absurd (hcurrent _ (List.mem_cons_self ..)) id
  | closer shape clause =>
      simp only [Nest.step] at h
      split at h
      · cases h
      · split at h
        · cases h
        · split at h
          · cases h
          · next node hclose =>
            cases h
            exact absurd (hcurrent node (List.mem_cons_self ..))
              (Nest.close_not_plain hclose)

/-- What ends up plain was plain at every step. -/
theorem Nest.isPlain_of_steps (h : nest.steps ps = .ok last)
    (hlast : last.IsPlain) :
    nest.IsPlain ∧ ∀ piece ∈ ps, piece.isPlain = true := by
  induction ps generalizing nest with
  | nil =>
      cases h
      exact ⟨hlast, nofun⟩
  | cons piece ps ih =>
      rw [Nest.steps] at h
      split at h
      · cases h
      · next next hstep =>
        obtain ⟨hnext, hps⟩ := ih h
        obtain ⟨hnest, hpiece⟩ := Nest.isPlain_of_step hstep hnext
        exact ⟨hnest, List.forall_mem_cons.mpr ⟨hpiece, hps⟩⟩

/-- The nest with other constructs open around it. -/
def Nest.within (frames : List Frame) (nest : Nest) : Nest :=
  ⟨nest.current, frames⟩

/-- A plain piece does the same inside of other constructs. -/
theorem Nest.step_within (h : nest.step piece = .ok next)
    (hpiece : piece.isPlain = true) (frames : List Frame) :
    (nest.within frames).step piece = .ok (next.within frames) := by
  obtain ⟨current, outer⟩ := nest
  cases piece with
  | text t o =>
      cases h
      simp only [Nest.within, Nest.step, Nest.addText_eq_addNode]
  | simple kind clause =>
      cases h
      rfl
  | opener | closer | separator | escape => cases hpiece

/-- Plain pieces go into a nest whatever is open around it. -/
theorem Nest.steps_within (h : nest.steps ps = .ok last)
    (hps : ∀ piece ∈ ps, piece.isPlain = true) (frames : List Frame) :
    (nest.within frames).steps ps = .ok (last.within frames) := by
  induction ps generalizing nest with
  | nil =>
      cases h
      rfl
  | cons piece ps ih =>
      obtain ⟨hpiece, hrest⟩ := List.forall_mem_cons.mp hps
      rw [Nest.steps] at h
      split at h
      · cases h
      · next next hstep =>
        rw [Nest.steps_cons (Nest.step_within hstep hpiece frames)]
        exact ih h hrest

-- =================================================================== trees

/-- Moving a clause keeps its parameters. -/
theorem Clause.kept_moved {f : Nat → Nat} {clause : Clause}
    (h : Kept clause.params) : Kept (clause.moved f).params := by
  intro param hparam
  obtain ⟨param, hmem, rfl⟩ := List.mem_map.mp hparam
  exact h param hmem

theorem Node.Plain.moved {f : Nat → Nat} {node : Node} (h : node.Plain) :
    (node.moved f).Plain := by
  cases node with
  | literal => exact trivial
  | simple kind clause => exact Clause.kept_moved h
  | iteration | justification | escape | group => exact absurd h id

/-- Plain nodes are plain elsewhere. -/
theorem plain_moved {f : Nat → Nat} {tree : List Node}
    (h : ∀ node ∈ tree, node.Plain) :
    ∀ node ∈ moved f tree, node.Plain := by
  intro node hnode
  rw [moved_eq_map] at hnode
  obtain ⟨node, hmem, rfl⟩ := List.mem_map.mp hnode
  exact (h node hmem).moved

/-- Nodes that are added do not take others away. -/
theorem foldl_addNode_ne_nil {base : List Node} (h : base ≠ [])
    (nodes : List Node) : nodes.foldl addNode base ≠ [] := by
  induction nodes generalizing base with
  | nil => exact h
  | cons node nodes ih =>
      refine ih ?_
      obtain ⟨above, below, rfl⟩ := List.exists_cons_of_ne_nil h
      cases node <;> cases above <;> exact List.cons_ne_nil _ _

/-- Plain trees one behind the other are a plain tree. -/
theorem plain_joined {tree later : List Node}
    (htree : ∀ node ∈ tree, node.Plain)
    (hlater : ∀ node ∈ later, node.Plain) :
    ∀ node ∈ joined tree later, node.Plain := by
  have hall (current : List Node) (hcurrent : ∀ node ∈ current, node.Plain) :
      ∀ node ∈ later.foldl addNode current, node.Plain := by
    induction later generalizing current with
    | nil => exact hcurrent
    | cons node later ih =>
        obtain ⟨hnode, hrest⟩ := List.forall_mem_cons.mp hlater
        exact ih hrest _ (plain_addNode_iff.mpr ⟨hnode, hcurrent⟩)
  intro node hnode
  exact hall tree.reverse (fun node h => htree node (List.mem_reverse.mp h))
    node (List.mem_reverse.mp hnode)

-- ================================================================ templates

/-- The pieces of a template that is read as a plain tree: wherever it
starts, they fill an empty sequence with the tree and go on a sequence as
the tree does, inside any constructs. -/
theorem spelling_of_plain {t : Text} {tree : List Node}
    (h : parse (.builtin settings) t = .ok tree)
    (hplain : ∀ node ∈ tree, node.Plain) (o : Nat) :
    ∃ ps, Spelling (.builtin settings) o t ps
      ∧ ∀ frames : List Frame,
        (Nest.steps ⟨[], frames⟩ ps
          = .ok ⟨(moved (· + o) tree).reverse, frames⟩)
        ∧ ∀ base, Nest.steps ⟨base, frames⟩ ps
          = .ok ⟨(moved (· + o) tree).foldl addNode base, frames⟩ := by
  obtain ⟨ps, nest, hread, hsteps, hfinish⟩ := readPieces_of_parse h
  cases Nest.finish_eq_ok_iff.mp hfinish
  have hspelling := (readPieces_eq_iff.mp hread).shift o
  have hmoved : Nest.empty.steps (ps.map (Piece.moved (· + o)))
      = .ok ⟨(moved (· + o) tree).reverse, []⟩ := by
    rw [← moved_reverse]
    exact Nest.steps_moved (· + o) hsteps
  have hlast : Nest.IsPlain ⟨(moved (· + o) tree).reverse, []⟩ :=
    ⟨rfl, fun node hnode =>
      plain_moved hplain node (List.mem_reverse.mp hnode)⟩
  have hpieces := (Nest.isPlain_of_steps hmoved hlast).2
  refine ⟨_, (Nat.zero_add o ▸ hspelling), fun frames => ⟨?_, fun base => ?_⟩⟩
  · exact Nest.steps_within hmoved hpieces frames
  · rw [← stacked_reverse]
    exact Nest.steps_within (Nest.steps_onto base hmoved) hpieces frames

/-- A directive without parameters and modifiers in front of a spelling. -/
theorem Spelling.bare_cons {registry : Registry} {letter : Character}
    {spec : Spec} {o : Nat} {rest : Text}
    (hpiece : piece.directive? = some (letter, { position := o }))
    (hletter : upperChar letter = [letter])
    (hspec : registry.get? [letter] = some spec)
    (hrest : Spelling registry (o + 2) rest ps) :
    Spelling registry o ('~' :: letter :: rest) (piece :: ps) := by
  have hallows : registry.Allows letter {} :=
    ⟨nofun, spec, hspec, Nat.zero_le _, slotsTake_nil_left _, nofun, nofun⟩
  exact .print_cons hpiece hletter hallows hrest

/-- An escape without a colon fits into a nest with a construct open. -/
theorem Nest.step_escape {clause : Clause}
    (hcolon : clause.modifiers.colon = false) (current : List Node)
    (frame : Frame) (frames : List Frame) :
    Nest.step ⟨current, frame :: frames⟩ (.escape clause)
      = .ok ⟨.escape (frames.length + 1) clause :: current,
          frame :: frames⟩ := by
  have hcheck : Nest.checkEscape ⟨current, frame :: frames⟩ clause
      = .ok () := by
    rw [Nest.checkEscape_eq_ok_iff]
    exact ⟨Nat.succ_pos _, fun h => absurd (hcolon.symm.trans h) nofun⟩
  simp only [Nest.step, hcheck]
  rfl

/-- The pieces of an iteration with two templates in its body and an escape
between them. -/
theorem Spelling.separated {t u : Text} {qs : List Piece}
    (hps : Spelling (.builtin settings) 2 t ps)
    (hqs : Spelling (.builtin settings) (2 + t.length + 2) u qs) :
    ∃ rs, Spelling (.builtin settings) 0
        (word "~\x7b" ++ t ++ word "~^" ++ u ++ word "~\x7d") rs
      ∧ ∀ nest : Nest, nest.steps rs
        = nest.steps (.opener .iteration {}
          :: (ps ++ .escape { position := 2 + t.length }
          :: (qs ++ [.closer .iteration
            { position := 2 + t.length + 2 + u.length }]))) := by
  -- no white space goes on with a joined line in front of a directive
  have hseam (o : Nat) (s rest : Text) :
      Seam (.builtin settings) o s ('~' :: rest) := fun _ =>
    stops_cons (by decide) rest
  have hcloser : Spelling (.builtin settings)
      (2 + t.length + 2 + u.length) ['~', '\x7d']
      [.closer .iteration { position := 2 + t.length + 2 + u.length }] :=
    .bare_cons rfl rfl rfl .nil
  obtain ⟨rs, hrs, hrsteps⟩ := hqs.append hcloser (hseam _ _ _)
  have hescape : Spelling (.builtin settings) (2 + t.length)
      ('~' :: '^' :: (u ++ [.scalar '~', .scalar '\x7d']))
      (.escape { position := 2 + t.length } :: rs) :=
    .bare_cons rfl rfl rfl hrs
  obtain ⟨ss, hss, hssteps⟩ := hps.append hescape (hseam _ _ _)
  have hwhole : Spelling (.builtin settings) 0
      ('~' :: '\x7b' :: (t ++ .scalar '~' :: .scalar '^'
        :: (u ++ [.scalar '~', .scalar '\x7d'])))
      (.opener .iteration {} :: ss) :=
    .bare_cons rfl rfl rfl hss
  have htext : word "~\x7b" ++ t ++ word "~^" ++ u ++ word "~\x7d"
      = .scalar '~' :: .scalar '\x7b' :: (t ++ .scalar '~' :: .scalar '^'
        :: (u ++ [.scalar '~', .scalar '\x7d'])) := by
    simp [word, Text.ofString]
  rw [htext]
  refine ⟨_, hwhole, fun nest => Nest.steps_cons_congr (fun nest => ?_) _ _⟩
  rw [hssteps]
  exact Nest.steps_append_congr
    (fun nest => Nest.steps_cons_congr hrsteps nest _) nest ps

/-- Plain templates in an iteration, with an escape between them. -/
theorem parse_separated {t u : Text} {tree later : List Node}
    (ht : parse (.builtin settings) t = .ok tree)
    (htree : ∀ node ∈ tree, node.Plain)
    (hu : parse (.builtin settings) u = .ok later)
    (hlater : ∀ node ∈ later, node.Plain) :
    parse (.builtin settings)
        (word "~\x7b" ++ t ++ word "~^" ++ u ++ word "~\x7d")
      = .ok [.iteration
          (joined
            (moved (· + 2) tree ++ [.escape 1 { position := 2 + t.length }])
            (moved (· + (2 + t.length + 2)) later))
          false {}] := by
  obtain ⟨ps, hps, hpsteps⟩ := spelling_of_plain ht htree 2
  obtain ⟨qs, hqs, hqsteps⟩ :=
    spelling_of_plain hu hlater (2 + t.length + 2)
  obtain ⟨rs, hrs, hrsteps⟩ := hps.separated hqs
  -- between the opener and the closer one construct is open
  let frame : Frame := ⟨.iteration, {}, [], []⟩
  let front : List Node :=
    moved (· + 2) tree ++ [.escape 1 { position := 2 + t.length }]
  have hfront : front.reverse
      = .escape 1 { position := 2 + t.length }
        :: (moved (· + 2) tree).reverse := List.reverse_append
  have hopened : Nest.empty.step (.opener .iteration {})
      = .ok ⟨[], [frame]⟩ := rfl
  have hescaped : Nest.step ⟨(moved (· + 2) tree).reverse, [frame]⟩
        (.escape { position := 2 + t.length })
      = .ok ⟨front.reverse, [frame]⟩ := by
    rw [Nest.step_escape rfl, hfront]
    rfl
  have hfull : front.reverse ≠ [] := hfront ▸ List.cons_ne_nil _ _
  rw [parse_of_readPieces (readPieces_of_spelling hrs), hrsteps,
    Nest.steps_cons hopened, Nest.steps_append (hpsteps [frame]).1,
    Nest.steps_cons hescaped,
    Nest.steps_append ((hqsteps [frame]).2 front.reverse),
    Nest.steps_cons
      (Nest.step_closer_iteration (foldl_addNode_ne_nil hfull _))]
  rfl

end TildeFormat
