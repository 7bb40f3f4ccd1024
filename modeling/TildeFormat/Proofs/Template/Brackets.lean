/-
Brackets against a grammar. Which sequences of pieces are properly nested
is told by `Nested`, without a stack: every opener has a closer of its own
construct behind it, a nested sequence stands between the two, and a
separator stands directly in a justification.

A sequence that is not nested is so because of one piece. What stands in
front of that piece is nested but for some constructs that are open,
`LeavesOpen`; the piece closes or separates something that is not the
innermost of these. If there is no such piece, the sequence itself leaves
constructs open, and the innermost of them is to blame: `Offends`.

The nest follows the grammar: over nested pieces it keeps the constructs
that are open around them, so it takes a sequence up to the first piece
that does not fit, and it fails there.
-/
import TildeFormat.Proofs.Template.Reading.Pieces
import TildeFormat.Proofs.Template.Nesting

namespace TildeFormat

variable {settings : Settings} {inside : Option Shape}
  {ps qs before after body : List Piece} {piece : Piece}
  {opens : List (Shape × Clause)} {place : Nat}

-- ============================================================ the grammar

/-- Literal text and one-step directives. -/
def Piece.isPlain : Piece → Bool
  | .text _ _ | .simple _ _ => true
  | _ => false

/-- Properly nested pieces that stand directly inside a construct of this
shape, or inside none. -/
inductive Nested : Option Shape → List Piece → Prop
  | nil {inside : Option Shape} : Nested inside []
  | plain {inside : Option Shape} {piece : Piece} {rest : List Piece}
      (hplain : piece.isPlain = true) (hrest : Nested inside rest) :
      Nested inside (piece :: rest)
  | separator {clause : Clause} {rest : List Piece}
      (hrest : Nested (some .justification) rest) :
      Nested (some .justification) (.separator clause :: rest)
  | construct {inside : Option Shape} {shape : Shape}
      {opening closing : Clause} {body rest : List Piece}
      (hbody : Nested (some shape) body) (hrest : Nested inside rest) :
      Nested inside
        (.opener shape opening :: (body ++ .closer shape closing :: rest))

/-- Pieces that are nested but for the constructs they leave open,
innermost first. -/
inductive LeavesOpen : List Piece → List (Shape × Clause) → Prop
  | nothing {ps : List Piece} (h : Nested none ps) : LeavesOpen ps []
  | inside {before body : List Piece} {shape : Shape} {clause : Clause}
      {opens : List (Shape × Clause)} (h : LeavesOpen before opens)
      (hbody : Nested (some shape) body) :
      LeavesOpen (before ++ .opener shape clause :: body)
        ((shape, clause) :: opens)

/-- The shape of the innermost open construct. -/
def innermost (opens : List (Shape × Clause)) : Option Shape :=
  opens.head?.map Prod.fst

/-- A piece at a place that does not fit inside a construct of this shape:
a closer of another construct, or a separator where there is nothing to
separate. -/
inductive Misfit (inside : Option Shape) : Piece → Nat → Prop
  | closer {shape : Shape} {clause : Clause} (h : inside ≠ some shape) :
      Misfit inside (.closer shape clause) clause.position
  | separator {clause : Clause} (h : inside ≠ some .justification) :
      Misfit inside (.separator clause) clause.position

/-- The place that pieces which are not nested are blamed on: the first
piece that does not fit or, if they all do, the innermost opener left
unclosed. -/
inductive Offends : List Piece → Nat → Prop
  | misfit {before after : List Piece} {piece : Piece}
      {opens : List (Shape × Clause)} {place : Nat}
      (hbefore : LeavesOpen before opens)
      (hpiece : Misfit (innermost opens) piece place) :
      Offends (before ++ piece :: after) place
  | unclosed {ps : List Piece} {shape : Shape} {clause : Clause}
      {opens : List (Shape × Clause)}
      (h : LeavesOpen ps ((shape, clause) :: opens)) :
      Offends ps clause.position

theorem Nested.append (h : Nested inside ps) (hqs : Nested inside qs) :
    Nested inside (ps ++ qs) := by
  induction h with
  | nil => exact hqs
  | plain hplain _ ih => exact .plain hplain (ih hqs)
  | separator _ ih => exact .separator (ih hqs)
  | construct hbody _ _ ih =>
      rw [List.cons_append, List.append_assoc]
      exact .construct hbody (ih hqs)

theorem LeavesOpen.append (h : LeavesOpen ps opens)
    (hqs : Nested (innermost opens) qs) : LeavesOpen (ps ++ qs) opens := by
  cases h with
  | nothing h => exact .nothing (h.append hqs)
  | inside h hbody =>
      rw [List.append_assoc]
      exact .inside h (hbody.append hqs)

/-- A closer of the innermost open construct. -/
theorem LeavesOpen.close {shape : Shape} {opening : Clause}
    (h : LeavesOpen ps ((shape, opening) :: opens)) (closing : Clause) :
    LeavesOpen (ps ++ [.closer shape closing]) opens := by
  cases h with
  | inside h hbody =>
      rw [List.append_assoc]
      exact h.append (.construct hbody .nil)

-- ===================================== nested pieces and those that are not

/-- One more piece fits into what is open or does not. -/
theorem LeavesOpen.snoc (h : LeavesOpen before opens)
    (hescape : ∀ clause, piece ≠ .escape clause) :
    (∃ opens, LeavesOpen (before ++ [piece]) opens)
      ∨ ∃ place, Misfit (innermost opens) piece place := by
  cases piece with
  | text | simple => exact .inl ⟨_, h.append (.plain rfl .nil)⟩
  | escape clause => exact absurd rfl (hescape clause)
  | opener shape clause => exact .inl ⟨_, .inside h .nil⟩
  | separator clause =>
      by_cases hinside : innermost opens = some .justification
      · have hqs : Nested (innermost opens) [.separator clause] := by
          rw [hinside]
          exact .separator .nil
        exact .inl ⟨_, h.append hqs⟩
      · exact .inr ⟨_, .separator hinside⟩
  | closer shape clause =>
      by_cases hinside : innermost opens = some shape
      · obtain ⟨⟨_, opening⟩, hhead, rfl⟩ :=
          Option.map_eq_some_iff.mp hinside
        obtain ⟨outer, rfl⟩ := List.head?_eq_some_iff.mp hhead
        exact .inl ⟨_, h.close clause⟩
      · exact .inr ⟨_, .closer hinside⟩

/-- Pieces behind what fits all fit, or something offends. -/
theorem LeavesOpen.extend (h : LeavesOpen before opens)
    (hescape : ∀ clause, .escape clause ∉ ps) :
    (∃ opens, LeavesOpen (before ++ ps) opens)
      ∨ ∃ place, Offends (before ++ ps) place := by
  induction ps generalizing before opens with
  | nil => exact .inl ⟨opens, by rwa [List.append_nil]⟩
  | cons piece ps ih =>
      have hpiece : ∀ clause, piece ≠ .escape clause := by
        rintro clause rfl
        exact hescape clause List.mem_cons_self
      rcases h.snoc hpiece with ⟨next, hnext⟩ | ⟨place, hmisfit⟩
      · have hrest := ih hnext fun clause hmem =>
          hescape clause (List.mem_cons_of_mem _ hmem)
        rwa [List.append_assoc] at hrest
      · exact .inr ⟨place, .misfit h hmisfit⟩

/-- Pieces are nested, or something offends. -/
theorem nested_or_offends (hescape : ∀ clause, .escape clause ∉ ps) :
    Nested none ps ∨ ∃ place, Offends ps place := by
  rcases (LeavesOpen.nothing .nil).extend hescape with
    ⟨opens, h⟩ | hoffends
  · cases h with
    | nothing h => exact .inl h
    | inside h hbody => exact .inr ⟨_, .unclosed (.inside h hbody)⟩
  · exact .inr hoffends

-- =============================================================== the nest

/-- The open constructs of a nest, innermost first. -/
def Nest.constructs (nest : Nest) : List (Shape × Clause) :=
  nest.frames.map fun frame => (frame.shape, frame.clause)

/-- No opener of an iteration has its closer right behind it. -/
def NoEmptyBody (ps : List Piece) : Prop :=
  ∀ opening closing,
    ¬[.opener .iteration opening, .closer .iteration closing] <:+: ps

theorem NoEmptyBody.of_infix (h : NoEmptyBody ps) (hqs : qs <:+: ps) :
    NoEmptyBody qs := fun opening closing hempty =>
  h opening closing (hempty.trans hqs)

/-- Plain pieces are put in as they are. -/
theorem Nest.step_plain (nest : Nest) (h : piece.isPlain = true) :
    ∃ next, nest.step piece = .ok next ∧ next.frames = nest.frames
      ∧ next.current ≠ [] := by
  cases piece with
  | text t o =>
      refine ⟨nest.addText t o, rfl, ?_⟩
      unfold Nest.addText
      split <;> exact ⟨rfl, List.cons_ne_nil _ _⟩
  | simple kind clause => exact ⟨_, rfl, rfl, List.cons_ne_nil _ _⟩
  | opener | closer | separator | escape => cases h

theorem Nest.step_opener (nest : Nest) (shape : Shape)
    (opening : Clause) :
    ∃ next, nest.step (.opener shape opening) = .ok next
      ∧ next.constructs = (shape, opening) :: nest.constructs
      ∧ next.current = [] := ⟨_, rfl, rfl, rfl⟩

theorem Nest.step_separator {nest : Nest}
    (h : innermost nest.constructs = some .justification)
    (clause : Clause) :
    ∃ next, nest.step (.separator clause) = .ok next
      ∧ next.constructs = nest.constructs := by
  obtain ⟨current, frames⟩ := nest
  cases frames with
  | nil => cases h
  | cons frame outer =>
      have hshape : frame.shape = .justification := Option.some.inj h
      refine ⟨⟨[], { frame with
        closed := current.reverse :: frame.closed } :: outer⟩, ?_, rfl⟩
      simp only [Nest.step, hshape, if_true]

/-- The innermost construct is closed by its own closer, unless it is an
iteration with nothing in its body. -/
theorem Nest.step_closer {nest : Nest} {shape : Shape} {opening : Clause}
    (hopens : nest.constructs = (shape, opening) :: opens)
    (hfull : shape = .iteration → nest.current ≠ []) (closing : Clause) :
    ∃ next, nest.step (.closer shape closing) = .ok next
      ∧ next.constructs = opens ∧ next.current ≠ [] := by
  obtain ⟨current, frames⟩ := nest
  obtain ⟨frame, outer, rfl, hframe, rfl⟩ := List.map_eq_cons_iff.mp hopens
  cases hframe
  have hclose : ∃ node,
      Nest.close frame current.reverse closing = .ok node := by
    unfold Nest.close
    split
    · next hshape =>
      have hne : current.reverse.isEmpty = false := by
        rw [List.isEmpty_eq_false_iff]
        exact mt List.reverse_eq_nil_iff.mp (hfull hshape)
      simp [hne]
    · exact ⟨_, rfl⟩
  obtain ⟨node, hnode⟩ := hclose
  refine ⟨⟨node :: frame.before, outer⟩, ?_, rfl, List.cons_ne_nil _ _⟩
  simp only [Nest.step, ne_eq, not_true_eq_false, if_false, hnode]

/-- Nested pieces leave the same constructs open. Only behind a separator
is there nothing in the current sequence. -/
theorem Nest.steps_of_nested (h : Nested inside ps) (hps : NoEmptyBody ps)
    (nest : Nest) (hinside : innermost nest.constructs = inside) :
    ∃ next, nest.steps ps = .ok next
      ∧ next.constructs = nest.constructs
      ∧ (next.current = [] → inside ≠ some .justification →
        nest.current = [] ∧ ps = []) := by
  induction h generalizing nest with
  | nil => exact ⟨nest, rfl, rfl, fun hnil _ => ⟨hnil, rfl⟩⟩
  | plain hplain _ ih =>
      obtain ⟨mid, hstep, hframes, hfull⟩ := nest.step_plain hplain
      have hmid : mid.constructs = nest.constructs := by
        rw [Nest.constructs, hframes, Nest.constructs]
      obtain ⟨next, hsteps, hnext, hempty⟩ :=
        ih (hps.of_infix (List.infix_cons (List.infix_refl _))) mid
          (hmid ▸ hinside)
      refine ⟨next, ?_, hnext.trans hmid, fun hnil hne => ?_⟩
      · rw [Nest.steps_cons hstep, hsteps]
      · exact absurd (hempty hnil hne).1 hfull
  | @separator clause _ _ ih =>
      obtain ⟨mid, hstep, hmid⟩ := Nest.step_separator hinside clause
      obtain ⟨next, hsteps, hnext, -⟩ :=
        ih (hps.of_infix (List.infix_cons (List.infix_refl _))) mid
          (hmid ▸ hinside)
      refine ⟨next, ?_, hnext.trans hmid, fun _ hne => absurd rfl hne⟩
      rw [Nest.steps_cons hstep, hsteps]
  | @construct _ shape opening closing body rest _ _ ihbody ihrest =>
      obtain ⟨opened, hopen, hopened, hnone⟩ :=
        nest.step_opener shape opening
      obtain ⟨filled, hfill, hfilled, hempty⟩ :=
        ihbody (hps.of_infix ⟨[.opener shape opening],
          .closer shape closing :: rest, by simp⟩) opened
          (congrArg innermost hopened)
      have hfull : shape = .iteration → filled.current ≠ [] := by
        rintro rfl hnil
        obtain ⟨-, rfl⟩ := hempty hnil nofun
        exact hps opening closing ⟨[], rest, rfl⟩
      obtain ⟨closed, hclose, hclosed, hsome⟩ :=
        Nest.step_closer (hfilled.trans hopened) hfull closing
      obtain ⟨next, hsteps, hnext, hempty⟩ :=
        ihrest (hps.of_infix ⟨.opener shape opening :: body
          ++ [.closer shape closing], [], by simp⟩) closed
          (hclosed ▸ hinside)
      refine ⟨next, ?_, hnext.trans hclosed, fun hnil hne => ?_⟩
      · rw [Nest.steps_cons hopen, Nest.steps_append hfill,
          Nest.steps_cons hclose, hsteps]
      · exact absurd (hempty hnil hne).1 hsome

/-- Pieces that all fit are put in, and leave open what the grammar says
they do. -/
theorem Nest.steps_of_leavesOpen (h : LeavesOpen ps opens)
    (hps : NoEmptyBody ps) :
    ∃ nest, Nest.empty.steps ps = .ok nest ∧ nest.constructs = opens := by
  induction h with
  | nothing h =>
      obtain ⟨nest, hsteps, hnest, -⟩ :=
        Nest.steps_of_nested h hps .empty rfl
      exact ⟨nest, hsteps, hnest⟩
  | @inside before body shape clause _ _ hbody ih =>
      obtain ⟨mid, hmid, rfl⟩ :=
        ih (hps.of_infix (List.prefix_append _ _).isInfix)
      obtain ⟨opened, hopen, hopened, -⟩ := mid.step_opener shape clause
      obtain ⟨nest, hsteps, hnest, -⟩ :=
        Nest.steps_of_nested hbody (hps.of_infix
          ⟨before ++ [.opener shape clause], [], by simp⟩) opened
          (congrArg innermost hopened)
      refine ⟨nest, ?_, hnest.trans hopened⟩
      rw [Nest.steps_append hmid, Nest.steps_cons hopen, hsteps]

/-- A piece that does not fit is refused at its place. -/
theorem Nest.step_of_misfit {nest : Nest}
    (h : Misfit (innermost nest.constructs) piece place) :
    ∃ e, nest.step piece = .error e
      ∧ e.cause.family = .unmatchedDelimiter ∧ e.position = place := by
  obtain ⟨current, frames⟩ := nest
  cases h with
  | @closer shape clause hinside =>
      cases frames with
      | nil => exact ⟨⟨.closerWithoutOpener shape, _⟩, rfl, rfl, rfl⟩
      | cons frame outer =>
          have hshape : frame.shape ≠ shape := fun heq =>
            hinside (congrArg some heq)
          refine ⟨⟨.closerMismatch shape frame.shape
            frame.clause.position, _⟩, ?_, rfl, rfl⟩
          simp only [Nest.step, ne_eq, hshape, not_false_eq_true, if_true]
  | @separator clause hinside =>
      refine ⟨⟨.separatorOutside, _⟩, ?_, rfl, rfl⟩
      cases frames with
      | nil => rfl
      | cons frame outer =>
          have hshape : frame.shape ≠ .justification := fun heq =>
            hinside (congrArg some heq)
          simp only [Nest.step, hshape, if_false]

/-- Pieces behind one that is refused are not looked at. -/
theorem Nest.steps_error {nest last : Nest} {e : ParseError}
    (h : nest.steps before = .ok last) (hpiece : last.step piece = .error e)
    (after : List Piece) :
    nest.steps (before ++ piece :: after) = .error e := by
  rw [Nest.steps_append h, Nest.steps, hpiece]

-- ============================================================== templates

/-- A template of nested pieces is read. -/
theorem exists_parse_of_nested {t : Text}
    (hspelling : Spelling (.builtin settings) 0 t ps) (hps : NoEmptyBody ps)
    (h : Nested none ps) : ∃ tree, parse (.builtin settings) t = .ok tree := by
  obtain ⟨⟨current, frames⟩, hsteps, hopens⟩ :=
    Nest.steps_of_leavesOpen (.nothing h) hps
  cases List.map_eq_nil_iff.mp hopens
  refine ⟨current.reverse, ?_⟩
  rw [parse_of_readPieces (readPieces_eq_iff.mpr hspelling), hsteps]
  rfl

/-- A template something offends in is refused there. -/
theorem parse_of_offends {t : Text}
    (hspelling : Spelling (.builtin settings) 0 t ps) (hps : NoEmptyBody ps)
    (h : Offends ps place) :
    ∃ e, parse (.builtin settings) t = .error e
      ∧ e.cause.family = .unmatchedDelimiter ∧ e.position = place := by
  rw [parse_of_readPieces (readPieces_eq_iff.mpr hspelling)]
  cases h with
  | misfit hbefore hpiece =>
      obtain ⟨nest, hsteps, rfl⟩ := Nest.steps_of_leavesOpen hbefore
        (hps.of_infix (List.prefix_append _ _).isInfix)
      obtain ⟨e, hstep, he⟩ := Nest.step_of_misfit hpiece
      exact ⟨e, by rw [Nest.steps_error hsteps hstep], he⟩
  | unclosed h =>
      obtain ⟨⟨current, frames⟩, hsteps, hopens⟩ :=
        Nest.steps_of_leavesOpen h hps
      obtain ⟨frame, outer, rfl, hframe, -⟩ :=
        List.map_eq_cons_iff.mp hopens
      cases hframe
      exact ⟨⟨.neverClosed frame.shape, _⟩, by rw [hsteps]; rfl, rfl, rfl⟩

/-- A template without escapes, and without an iteration that has an empty
body, is read just when its pieces are properly nested. Otherwise it is
refused for its brackets, at the one place where something offends: the
first closer that is not of the innermost open construct or separator
whose innermost open construct is no justification, and when there is
none, the innermost opener left unclosed. -/
theorem parse_brackets {t : Text}
    (hspelling : Spelling (.builtin settings) 0 t ps)
    (hescape : ∀ clause, .escape clause ∉ ps) (hbody : NoEmptyBody ps) :
    ((∃ tree, parse (.builtin settings) t = .ok tree) ↔ Nested none ps)
      ∧ ∀ e, parse (.builtin settings) t = .error e →
        e.cause.family = .unmatchedDelimiter
          ∧ ∀ place, Offends ps place ↔ place = e.position := by
  have hrefused {place : Nat} (h : Offends ps place) :=
    parse_of_offends hspelling hbody h
  refine ⟨⟨?_, exists_parse_of_nested hspelling hbody⟩, fun e he => ?_⟩
  · rintro ⟨tree, htree⟩
    rcases nested_or_offends hescape with hnested | ⟨place, hoffends⟩
    · exact hnested
    · obtain ⟨e, he, -⟩ := hrefused hoffends
      cases htree.symm.trans he
  · have hplace (place : Nat) (h : Offends ps place) :
        e.cause.family = .unmatchedDelimiter ∧ place = e.position := by
      obtain ⟨e', he', hfamily, rfl⟩ := hrefused h
      cases he.symm.trans he'
      exact ⟨hfamily, rfl⟩
    rcases nested_or_offends hescape with hnested | ⟨place, hoffends⟩
    · obtain ⟨tree, htree⟩ := exists_parse_of_nested hspelling hbody hnested
      cases htree.symm.trans he
    · obtain ⟨hfamily, rfl⟩ := hplace place hoffends
      exact ⟨hfamily, fun other =>
        ⟨fun h => (hplace other h).2, fun heq => heq ▸ hoffends⟩⟩

/-- A separator directly in a loop that is inside a justification. -/
def strayTemplate : Text := word "~<~\x7ba~;~\x7d~>"

def strayPieces : List Piece :=
  [ .opener .justification ⟨[], {}, 0⟩, .opener .iteration ⟨[], {}, 2⟩,
    .text ['a'] 4, .separator ⟨[], {}, 5⟩, .closer .iteration ⟨[], {}, 7⟩,
    .closer .justification ⟨[], {}, 9⟩ ]

theorem parse_brackets_strayTemplate :
    Spelling .standard 0 strayTemplate strayPieces
      ∧ (∀ clause, .escape clause ∉ strayPieces) ∧ NoEmptyBody strayPieces
      ∧ parse .standard strayTemplate = .error ⟨.separatorOutside, 5⟩
      ∧ ¬Nested none strayPieces
      ∧ ∀ place, Offends strayPieces place ↔ place = 5 := by
  have hspelling : Spelling .standard 0 strayTemplate strayPieces :=
    readPieces_eq_iff.mp (by with_unfolding_all rfl)
  have hescape : ∀ clause, .escape clause ∉ strayPieces := by
    simp [strayPieces]
  have hbody : NoEmptyBody strayPieces := by
    intro opening closing
    simp [strayPieces, List.infix_cons_iff]
  have hparse : parse .standard strayTemplate
      = .error ⟨.separatorOutside, 5⟩ := by
    with_unfolding_all rfl
  obtain ⟨haccepted, hrefused⟩ := parse_brackets hspelling hescape hbody
  refine ⟨hspelling, hescape, hbody, hparse, fun hnested => ?_,
    (hrefused _ hparse).2⟩
  obtain ⟨tree, htree⟩ := haccepted.mpr hnested
  cases hparse.symm.trans htree

end TildeFormat
