/-
A text with each tilde doubled, as a template. It is put together from the
templates of its characters, each of which puts out that character and
takes nothing; none of them ends in the middle of a line that is joined,
so they are read one behind the other.
-/
import TildeFormat.Proofs.Render.Joining
import TildeFormat.Proofs.Template.Plain

namespace TildeFormat

variable {settings : Settings} {registry : Registry} {t u : Text}
  {tree later : List Node}

/-- A character as a template. -/
def doubledChar (c : Character) : Text := if c = '~' then ['~', '~'] else [c]

/-- A text with each tilde doubled. -/
def doubled (t : Text) : Text := t.flatMap doubledChar

/-- A tree that puts out a text and leaves the arguments as they are,
whatever is around it. -/
def PutsOut (registry : Registry) (t : Text) (tree : List Node) : Prop :=
  ∀ scope cursor, (renderAll registry scope tree cursor).text = t
    ∧ (renderAll registry scope tree cursor).ending = .finished cursor

/-- What a tree puts out does not depend on its places. -/
theorem PutsOut.moved (h : PutsOut registry t tree) (f : Nat → Nat) :
    PutsOut registry t (moved f tree) := by
  intro scope cursor
  obtain ⟨htext, hending⟩ := h scope cursor
  have htracks : Run.Tracks f Eq (renderAll registry scope tree cursor)
      (renderAll registry scope (TildeFormat.moved f tree) cursor) :=
    tracking_eq.renderAll scope rfl
  have hfinished := htracks.ending
  rw [hending] at hfinished
  obtain ⟨_, hmoved, rfl⟩ := hfinished.of_finished
  exact ⟨htracks.text.trans htext, hmoved⟩

/-- Trees in a row put out their texts in a row. -/
theorem PutsOut.joined (h : PutsOut registry t tree)
    (hlater : PutsOut registry u later) :
    PutsOut registry (t ++ u) (joined tree later) := by
  intro scope cursor
  obtain ⟨htext, hending⟩ := h scope cursor
  obtain ⟨hlast, hfinished⟩ := hlater scope cursor
  rw [renderAll_joined, Run.andThen_of_finished hending]
  exact ⟨congr (congrArg _ htext) hlast, hfinished⟩

/-- A template that ends with a joined line has a tilde and a line break
in it. -/
theorem EndsJoined.mem {o : Nat} (h : EndsJoined registry o t) :
    .scalar '~' ∈ t ∧ .scalar '\n' ∈ t := by
  obtain ⟨u, ps, modifiers, w, rfl, -, hjoin, -⟩ := h
  cases hjoin with
  | mk => simp

/-- A character, or a tilde twice, may be followed by anything. -/
theorem seam_doubledChar (o : Nat) (c : Character) (t : Text) :
    Seam registry o (doubledChar c) t := by
  intro hends
  obtain ⟨htilde, hbreak⟩ := hends.mem
  unfold doubledChar at htilde hbreak
  split at hbreak
  · exact absurd hbreak (by decide)
  · next hc =>
    rw [if_neg hc, List.mem_singleton] at htilde
    exact absurd htilde.symm hc

/-- A tilde is put out by the directive for it, anything else by itself. -/
theorem exists_tree_doubledChar (settings : Settings) (c : Character) :
    ∃ tree, parse (.builtin settings) (doubledChar c) = .ok tree
      ∧ (∀ node ∈ tree, node.Plain)
      ∧ PutsOut (.builtin settings) [c] tree := by
  unfold doubledChar
  split
  · next hc =>
    subst hc
    have hspelling : Spelling (.builtin settings) 0 ['~', '~']
        [.simple .tilde {}] := .bare_cons rfl rfl rfl .nil
    refine ⟨[.simple .tilde {}], ?_, fun node hnode => ?_,
      fun scope cursor => ⟨rfl, rfl⟩⟩
    · rw [parse_of_readPieces (readPieces_of_spelling hspelling)]
      rfl
    · cases List.mem_singleton.mp hnode
      exact kept_nil
  · next hc =>
    have hspelling : Spelling (.builtin settings) 0 ([c] ++ [])
        [.text [c] 0] :=
      .text (List.cons_ne_nil _ _) (fun h => hc (List.mem_singleton.mp h).symm)
        fresh_nil .nil
    refine ⟨[.literal [c] 0], ?_, fun node hnode => ?_,
      fun scope cursor => ⟨rfl, rfl⟩⟩
    · rw [← List.append_nil [c],
        parse_of_readPieces (readPieces_of_spelling hspelling)]
      rfl
    · cases List.mem_singleton.mp hnode
      exact trivial

/-- A text with each tilde doubled is read as a plain tree that puts out
the text. -/
theorem exists_tree_doubled (settings : Settings) (t : Text) :
    ∃ tree, parse (.builtin settings) (doubled t) = .ok tree
      ∧ (∀ node ∈ tree, node.Plain)
      ∧ PutsOut (.builtin settings) t tree := by
  induction t with
  | nil =>
      refine ⟨[], ?_, nofun, fun scope cursor => ⟨rfl, rfl⟩⟩
      rw [doubled, List.flatMap_nil,
        parse_of_readPieces (readPieces_of_spelling .nil)]
      rfl
  | cons c t ih =>
      obtain ⟨tree, hparse, hplain, hputs⟩ :=
        exists_tree_doubledChar settings c
      obtain ⟨later, hparse', hplain', hputs'⟩ := ih
      exact ⟨_, parse_joined hparse hparse' (seam_doubledChar 0 c _),
        plain_joined hplain (plain_moved hplain'),
        hputs.joined (hputs'.moved _)⟩

/-- Any text can be written as a template, with its tildes doubled: the
template is read, and it puts out the text whatever the arguments, and
uses none of them. -/
theorem render_doubled (settings : Settings) (t : Text) :
    ∃ tree, parse (.builtin settings) (doubled t) = .ok tree
      ∧ ∀ arguments,
        (render (.builtin settings) tree arguments).result = .ok t
          ∧ (render (.builtin settings) tree arguments).ending
            = .finished (Cursor.ofList arguments) := by
  obtain ⟨tree, hparse, -, hputs⟩ := exists_tree_doubled settings t
  refine ⟨tree, hparse, ?_⟩
  intro arguments
  obtain ⟨htext, hending⟩ := hputs [] (Cursor.ofList arguments)
  exact ⟨Run.result_eq_ok_iff.mpr ⟨htext, _, hending⟩, hending⟩

end TildeFormat
