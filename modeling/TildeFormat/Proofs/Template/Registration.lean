/-
Which specification validates a directive and which one renders it. A
registry is told by its registrations, those of the built-in directives
first: a character finds the latest one under its capital form, and a kind
is rendered by the latest one of that kind. Both are kept by a single
registration, `Recorded.register`, and so by any number of them.

A tree keeps of a one-step directive only its kind. So the specification
that validated the directive is the one that renders it as long as no
later registration, which then stands under another key, is of the same
kind; and no longer, for the one that renders then is among the later ones.
-/
import TildeFormat.Proofs.Template.Origin
import TildeFormat.Render

namespace TildeFormat

-- ============================================================ the latest

/-- The latest element of which a property holds, and those after it. -/
structure Latest (p : Spec → Prop) (history : List Spec) (spec : Spec)
    (later : List Spec) : Prop where
  split : ∃ before, history = before ++ spec :: later
  holds : p spec
  last : ∀ s ∈ later, ¬p s

namespace Latest

variable {p : Spec → Prop} {history later : List Spec} {spec : Spec}

/-- A spec that comes last is the latest. -/
theorem concat_self (history : List Spec) (h : p spec) :
    Latest p (history ++ [spec]) spec [] :=
  ⟨⟨history, rfl⟩, h, List.forall_mem_nil _⟩

/-- The latest stays so behind specs that are none of its kind. -/
theorem concat (h : Latest p history spec later) {next : Spec}
    (hnext : ¬p next) :
    Latest p (history ++ [next]) spec (later ++ [next]) := by
  obtain ⟨before, rfl⟩ := h.split
  refine ⟨⟨before, by simp⟩, h.holds, ?_⟩
  intro s hs
  rcases List.mem_append.mp hs with hs | hs
  · exact h.last s hs
  · rwa [List.mem_singleton.mp hs]

/-- What came before does not matter. -/
theorem append_left (before : List Spec)
    (h : Latest p history spec later) :
    Latest p (before ++ history) spec later := by
  obtain ⟨front, rfl⟩ := h.split
  exact ⟨⟨before ++ front, by simp⟩, h.holds, h.last⟩

/-- The latest is one of them. -/
theorem mem (h : Latest p history spec later) : spec ∈ history := by
  obtain ⟨before, rfl⟩ := h.split
  exact List.mem_append_right _ List.mem_cons_self

/-- There is one at most. -/
theorem unique (h : Latest p history spec later) {other : Spec}
    {others : List Spec} (k : Latest p history other others) :
    other = spec := by
  obtain ⟨before, hbefore⟩ := h.split
  obtain ⟨front, hfront⟩ := k.split
  rcases List.append_eq_append_iff.mp (hbefore.symm.trans hfront) with
    ⟨between, -, hsplit⟩ | ⟨between, -, hsplit⟩
  · cases between with
    | nil => exact (List.cons.inj hsplit).1.symm
    | cons s between =>
        have hin : other ∈ later := by
          rw [(List.cons.inj hsplit).2]
          exact List.mem_append_right _ List.mem_cons_self
        exact absurd k.holds (h.last other hin)
  · cases between with
    | nil => exact (List.cons.inj hsplit).1
    | cons s between =>
        have hin : spec ∈ others := by
          rw [(List.cons.inj hsplit).2]
          exact List.mem_append_right _ List.mem_cons_self
        exact absurd h.holds (k.last spec hin)

/-- Where there is one at all, there is a latest one. -/
theorem exists_latest (h : ∃ s ∈ history, p s) :
    ∃ latest later, Latest p history latest later := by
  induction history with
  | nil =>
      obtain ⟨s, hs, -⟩ := h
      cases hs
  | cons first history ih =>
      by_cases hrest : ∃ s ∈ history, p s
      · obtain ⟨latest, later, hlatest⟩ := ih hrest
        exact ⟨latest, later, hlatest.append_left [first]⟩
      · obtain ⟨s, hs, hp⟩ := h
        rcases List.mem_cons.mp hs with rfl | hs
        · exact ⟨s, history, ⟨[], rfl⟩, hp,
            fun other hin hother => hrest ⟨other, hin, hother⟩⟩
        · exact absurd ⟨s, hs, hp⟩ hrest

/-- An element of which the property holds as of a later one is not the
latest: that is among those after it. -/
theorem mem_later {first : Spec} {before after : List Spec}
    (hsplit : history = before ++ first :: after)
    (hafter : ∃ s ∈ after, p s) (h : Latest p history spec later) :
    spec ∈ after := by
  obtain ⟨latest, rest, hlatest⟩ := exists_latest hafter
  have hwhole := hlatest.append_left (before ++ [first])
  rw [List.append_assoc, List.singleton_append, ← hsplit] at hwhole
  rw [hwhole.unique h]
  exact hlatest.mem

end Latest

-- ======================================================== registrations

namespace Registry

/-- A registry with more registrations, one after the other. -/
def extended (registry : Registry) (added : List Spec) : Registry :=
  added.foldl register registry

/-- The registrations that made a registry: of every key the latest one is
found, and of every kind the latest one renders. -/
structure Recorded (registry : Registry) (history : List Spec) :
    Prop where
  byKey : ∀ t spec, registry.get? t = some spec →
    ∃ later, Latest (fun s => s.key = t.upper) history spec later
  byKind : ∀ kind, ∃ later, Latest (fun s => s.kind = some kind) history
    (registry.ofKind kind) later

/-- A spec that is placed is found under its key, and every other one as
before. -/
theorem find?_place (spec : Spec) (specs : List Spec) (key : Text) :
    (place spec specs).find? (fun s => s.key = key)
      = if spec.key = key then some spec
        else specs.find? fun s => s.key = key := by
  induction specs with
  | nil =>
      rw [place, List.find?_cons, List.find?_nil]
      by_cases h : spec.key = key <;> simp [h]
  | cons s specs ih =>
      rw [place]
      by_cases hsame : s.key = spec.key
      · rw [if_pos hsame, List.find?_cons, List.find?_cons, hsame]
        by_cases h : spec.key = key <;> simp [h]
      · rw [if_neg hsame, List.find?_cons, List.find?_cons, ih]
        by_cases h : s.key = key
        · have hother : ¬spec.key = key := fun hk =>
            hsame (h.trans hk.symm)
          simp [h, hother]
        · simp [h]

/-- A registration is found under its key and changes nothing else. -/
theorem get?_register (registry : Registry) (spec : Spec) (t : Text) :
    (registry.register spec).get? t
      = if spec.key = t.upper then some spec else registry.get? t :=
  find?_place spec registry.specs t.upper

variable {registry : Registry} {history : List Spec}

/-- What one registration keeps. -/
theorem Recorded.register (h : Recorded registry history) (spec : Spec) :
    Recorded (registry.register spec) (history ++ [spec]) where
  byKey := by
    intro t found hfound
    rw [get?_register] at hfound
    split at hfound
    · next hkey =>
      cases hfound
      exact ⟨[], .concat_self history hkey⟩
    · next hkey =>
      obtain ⟨later, hlater⟩ := h.byKey t found hfound
      exact ⟨_, hlater.concat hkey⟩
  byKind := by
    intro kind
    show ∃ later, Latest _ _
      (if spec.kind = some kind then spec else registry.ofKind kind) later
    split
    · next hkind => exact ⟨[], .concat_self history hkind⟩
    · next hkind =>
      obtain ⟨later, hlater⟩ := h.byKind kind
      exact ⟨_, hlater.concat hkind⟩

/-- What any number of registrations keeps. -/
theorem Recorded.extended (h : Recorded registry history)
    (added : List Spec) :
    Recorded (registry.extended added) (history ++ added) := by
  induction added generalizing registry history with
  | nil => rwa [List.append_nil]
  | cons spec added ih =>
      have hrest := ih (h.register spec)
      rwa [List.append_assoc] at hrest

variable {settings : Settings}

/-- The built-in directives have keys of their own. -/
theorem pairwise_key_builtin (settings : Settings) :
    (builtin settings).specs.Pairwise fun a b => a.key ≠ b.key := by
  have hkeys : (builtin settings).specs.map Spec.key
      = builtinLetters.map fun letter => [letter] := rfl
  have hdistinct : (builtinLetters.map fun letter => [letter]).Pairwise
      (· ≠ ·) := by decide
  exact List.pairwise_map.mp (hkeys ▸ hdistinct)

theorem kind_stepSpec (settings : Settings) (kind : Kind) :
    (stepSpec settings kind).kind = some kind := by
  cases kind <;> rfl

/-- Among the built-in directives a kind has one specification. -/
theorem eq_stepSpec_of_mem {spec : Spec} {kind : Kind}
    (h : spec ∈ (builtin settings).specs) (hkind : spec.kind = some kind) :
    spec = stepSpec settings kind := by
  rcases mem_specs_builtin h with ⟨other, rfl⟩ | rfl | h
  · rw [kind_stepSpec, Option.some.injEq] at hkind
    rw [hkind]
  · cases hkind
  · have hnone : ∀ s ∈ constructSpecs, s.kind = none := by decide
    rw [hnone spec h] at hkind
    cases hkind

/-- The built-in directives are their own registrations. -/
theorem recorded_builtin (settings : Settings) :
    Recorded (builtin settings) (builtin settings).specs where
  byKey := by
    intro t spec hspec
    have hkey := List.find?_some hspec
    obtain ⟨-, before, later, hsplit, -⟩ :=
      List.find?_eq_some_iff_append.mp hspec
    refine ⟨later, ⟨before, hsplit⟩, of_decide_eq_true hkey, ?_⟩
    have hdistinct := pairwise_key_builtin settings
    rw [hsplit, List.pairwise_append, List.pairwise_cons] at hdistinct
    intro s hs heq
    exact hdistinct.2.1.1 s hs
      ((of_decide_eq_true hkey).trans heq.symm)
  byKind := by
    intro kind
    have hmem : stepSpec settings kind ∈ (builtin settings).specs :=
      (mem_of_get? (get?_kind settings kind)).1
    obtain ⟨latest, later, hlatest⟩ : ∃ latest later,
        Latest (fun s => s.kind = some kind) (builtin settings).specs
          latest later :=
      Latest.exists_latest ⟨_, hmem, kind_stepSpec settings kind⟩
    refine ⟨later, ?_⟩
    show Latest _ _ (stepSpec settings kind) later
    rwa [← eq_stepSpec_of_mem hlatest.mem hlatest.holds]

end Registry

-- ============================================================== reading

/-- A directive is written in a template with a character: behind the tilde
at the place of its clause, reading gives the clause and then the
character. -/
def WrittenWith (c : Character) (clause : Clause) (t : Text) : Prop :=
  ∃ rest after, Place.Reaches ⟨0, t⟩ ⟨clause.position, '~' :: rest⟩
    ∧ scanDirective clause.position ⟨clause.position + 1, rest⟩
      = .ok (⟨c, clause⟩, after)

/-- A directive among the pieces of a text was read at some place in it. -/
theorem exists_read_of_mem {registry : Registry} {p : Place}
    {piece : Piece} {d : Character × Clause}
    (h : piece ∈ (readPieces registry p).pieces)
    (hd : piece.directive? = some d) :
    ∃ o rest q, p.Reaches ⟨o, '~' :: rest⟩
      ∧ readDirective registry o ⟨o + 1, rest⟩
        = .ok (some piece, q) := by
  fun_induction readPieces registry p with
  | case1 => cases h
  | case2 => cases h
  | case3 p t piece? q hread rest hp ih =>
      rcases List.mem_append.mp h with hfirst | hlater
      · have hpiece : piece? = some piece :=
          Option.mem_toList.mp hfirst
        rw [hpiece] at hread
        refine ⟨p.offset, t, q, ?_, hread⟩
        rw [← hp]
        exact .refl p
      · obtain ⟨o, after, q', hreach, hlast⟩ := ih hlater
        refine ⟨o, after, q', ?_, hlast⟩
        exact ((reaches_tail hp).trans
          (length_lt_of_readDirective hread).1).trans hreach
  | case4 p c t hp hc run rest ih =>
      rcases List.mem_cons.mp h with rfl | hlater
      · cases hd
      · obtain ⟨o, after, q, hreach, hlast⟩ := ih hlater
        refine ⟨o, after, q, ?_, hlast⟩
        exact ((reaches_tail hp).trans
          (Place.reaches_pass _ _)).trans hreach

/-- A directive stands at its tilde. -/
theorem position_of_scanDirective {start : Nat} {p q : Place}
    {token : Token} (h : scanDirective start p = .ok (token, q)) :
    token.clause.position = start := by
  unfold scanDirective at h
  split at h
  · cases h
  · split at h
    · cases h
    · split at h
      · cases h
      · cases h
        rfl

/-- A bracket or an escape is no simple directive. -/
theorem structuralPiece_ne_simple (token : Token) (kind : Kind)
    (clause : Clause) :
    structuralPiece token ≠ some (.simple kind clause) := by
  unfold structuralPiece
  grind

/-- Only a specification of a kind leaves a directive of that kind. -/
theorem kind_of_piece {spec : Spec} {token : Token} {after q : Place}
    {kind : Kind} {clause : Clause}
    (h : spec.piece token after = .ok (some (.simple kind clause), q)) :
    spec.kind = some kind ∧ token.clause = clause := by
  unfold Spec.piece at h
  split at h
  · -- a joined line leaves the line break, if anything
    obtain ⟨hkept, -⟩ := Prod.mk.inj (Except.ok.inj h)
    split at hkept <;> cases hkept
  · obtain ⟨hpiece, -⟩ := Prod.mk.inj (Except.ok.inj h)
    exact absurd hpiece (structuralPiece_ne_simple token kind clause)
  · cases h
  · split at h
    · next hkind =>
      cases h
      exact ⟨hkind, rfl⟩
    · cases h

/-- The letters tell the kinds apart. -/
theorem Kind.letter_injective {kind other : Kind}
    (h : kind.letter = other.letter) : kind = other := by
  revert h
  cases kind <;> cases other <;> decide

/-- A piece under the letter of a kind is a one-step directive of it. -/
theorem eq_simple_of_directive {piece : Piece} {kind : Kind}
    {clause : Clause} (h : piece.directive? = some (kind.letter, clause)) :
    piece = .simple kind clause := by
  cases piece with
  | text => cases h
  | simple other clause' =>
      obtain ⟨hletter, rfl⟩ := Prod.mk.inj (Option.some.inj h)
      rw [Kind.letter_injective hletter]
  | opener shape clause' =>
      obtain ⟨hletter, -⟩ := Prod.mk.inj (Option.some.inj h)
      cases shape <;> cases kind <;> cases hletter
  | closer shape clause' =>
      obtain ⟨hletter, -⟩ := Prod.mk.inj (Option.some.inj h)
      cases shape <;> cases kind <;> cases hletter
  | separator clause' =>
      obtain ⟨hletter, -⟩ := Prod.mk.inj (Option.some.inj h)
      cases kind <;> cases hletter
  | escape clause' =>
      obtain ⟨hletter, -⟩ := Prod.mk.inj (Option.some.inj h)
      cases kind <;> cases hletter

/-- A one-step directive of a tree was read with a character whose
specification admits it and is of its kind. -/
theorem exists_validator {registry : Registry} {t : Text}
    {tree : List Node} (h : parse registry t = .ok tree) {kind : Kind}
    {clause : Clause} (hd : (kind.letter, clause) ∈ directives tree) :
    ∃ c spec, WrittenWith c clause t ∧ registry.get? [c] = some spec
      ∧ spec.Admits clause ∧ spec.kind = some kind := by
  obtain ⟨ps, hpieces, piece, hpiece, hdirective⟩ :=
    exists_piece_of_parse h hd
  have hmem : piece ∈ (readPieces registry ⟨0, t⟩).pieces := by
    rw [hpieces]
    exact hpiece
  obtain ⟨o, rest, q, hreach, hread⟩ := exists_read_of_mem hmem hdirective
  cases eq_simple_of_directive hdirective
  unfold readDirective at hread
  split at hread
  · cases hread
  · next token after hscan =>
    split at hread
    · cases hread
    · next spec hspec =>
      split at hread
      · cases hread
      · next hcheck =>
        obtain ⟨hkind, rfl⟩ := kind_of_piece hread
        cases position_of_scanDirective hscan
        exact ⟨token.char, spec, ⟨rest, after, hreach, hscan⟩, hspec,
          (spec.check_eq_ok_iff _).mp hcheck, hkind⟩

-- ============================================================ rendering

/-- A one-step directive rendered by a specification: the parameters go
into its slots, and its action gets them. -/
def Spec.render (spec : Spec) (kind : Kind) (clause : Clause)
    (cursor : Cursor) : Run :=
  orFail (resolveParams kind.name clause.params spec.params cursor)
    fun (values, next) =>
      match spec.action with
      | some action => action.act kind.name clause values next
      | none => .stop (.fault .noRendering)

/-- In a registry of any registrations besides the built-in ones, a
one-step directive of a tree was validated by the latest specification
under its character. That is the one that renders it just when no later
registration is of the same kind. -/
theorem renders_as_validated_iff {settings : Settings} {added : List Spec}
    {registry : Registry}
    (hmade : (Registry.builtin settings).extended added = registry)
    {t : Text} {tree : List Node} (h : parse registry t = .ok tree)
    {kind : Kind} {clause : Clause}
    (hd : (kind.letter, clause) ∈ directives tree) :
    ∃ c spec later, WrittenWith c clause t
      ∧ registry.get? [c] = some spec
      ∧ Latest (fun s => s.key = upperChar c)
        ((Registry.builtin settings).specs ++ added) spec later
      ∧ spec.Admits clause ∧ spec.kind = some kind
      ∧ (∀ scope cursor,
        renderNode registry scope (.simple kind clause) cursor
          = (registry.ofKind kind).render kind clause cursor)
      ∧ (registry.ofKind kind = spec ↔ ∀ s ∈ later, s.kind ≠ some kind) := by
  have hrecorded := (Registry.recorded_builtin settings).extended added
  rw [hmade] at hrecorded
  obtain ⟨c, spec, hwritten, hspec, hadmits, hkind⟩ :=
    exists_validator h hd
  obtain ⟨later, hlater⟩ := hrecorded.byKey [c] spec hspec
  rw [upper_singleton] at hlater
  obtain ⟨rest, hrenderer⟩ := hrecorded.byKind kind
  refine ⟨c, spec, later, hwritten, hspec, hlater, hadmits, hkind,
    fun _ _ => rfl, ?_⟩
  obtain ⟨before, hsplit⟩ := hlater.split
  constructor
  · -- the renderer would be among the later ones, under another key
    intro hsame s hs hother
    have hin := Latest.mem_later hsplit ⟨s, hs, hother⟩ hrenderer
    rw [hsame] at hin
    exact hlater.last spec hin hlater.holds
  · intro hnone
    have hlatest : Latest (fun s => s.kind = some kind)
        ((Registry.builtin settings).specs ++ added) spec later :=
      ⟨⟨before, hsplit⟩, hkind, hnone⟩
    exact hlatest.unique hrenderer

/-- A specification of the kind of `~A` under another key, with slots of its
own. -/
def dottedSpec : Spec where
  key := ['Q']
  category := .printing
  description := "Print an argument and dots up to six columns"
  params :=
    [ ⟨"mincol", .integer, .integer 6, some 0⟩,
      ⟨"colinc", .integer, .integer 1, some 1⟩,
      ⟨"minpad", .integer, .integer 0, some 0⟩,
      ⟨"padchar", .character, .text ['.'], some 0⟩ ]
  kind := some .human
  action := some .human

/-- A directive of the kind of `~A` changes what `~A` does, though not what
it is checked against. -/
theorem renders_as_validated_iff_sharedKind :
    let registry := (Registry.builtin .standard).extended [dottedSpec]
    let clause : Clause := ⟨[], {}, 0⟩
    parse registry (word "~A") = .ok [.simple .human clause]
      ∧ (Kind.human.letter, clause) ∈ directives [.simple .human clause]
      ∧ registry.get? ['A']
        = some (Registry.stepSpec .standard .human)
      ∧ (render registry [.simple .human clause]
          [.str ['x']]).text = word "x....."
      ∧ ∃ c spec later, WrittenWith c clause (word "~A")
        ∧ registry.get? [c] = some spec
        ∧ Latest (fun s => s.key = upperChar c)
          ((Registry.builtin .standard).specs ++ [dottedSpec]) spec later
        ∧ spec.Admits clause ∧ spec.kind = some .human
        ∧ (∀ scope cursor,
          renderNode registry scope (.simple .human clause) cursor
            = (registry.ofKind .human).render .human clause cursor)
        ∧ (registry.ofKind .human = spec
          ↔ ∀ s ∈ later, s.kind ≠ some .human) := by
  intro registry clause
  have hparse : parse registry (word "~A")
      = .ok [.simple .human clause] := by
    with_unfolding_all rfl
  have hin : (Kind.human.letter, clause)
      ∈ directives [.simple .human clause] := List.mem_singleton.mpr rfl
  exact ⟨hparse, hin, rfl, by decide +kernel,
    renders_as_validated_iff rfl hparse hin⟩

end TildeFormat
