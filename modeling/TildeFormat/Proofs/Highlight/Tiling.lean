/-
The tokens of a text are the text. At every place one of the rules fits
and takes at least one character, so no token is empty; the parts it takes
are what stands there, one behind the other, so nothing is left out, taken
twice or put elsewhere. A token starts where the one in front of it ends.

A step lays down the parts of one rule, and the tokens of the rest are
laid behind them (`Tiles.append`).
-/
import TildeFormat.Highlight.Lexer
import TildeFormat.Proofs.Highlight.Pattern

namespace TildeFormat

-- ===================================================== what a rule takes

/-- A pattern that takes at least one character. -/
def Pattern.Filled (p : Pattern) : Prop := ∀ t, ∀ s ∈ p t, s.1 ≠ []

/-- A test of one character takes one. -/
theorem Pattern.filled_char (test : Character → Bool) :
    (Pattern.char test).Filled := by
  intro t s hs
  cases t with
  | nil => cases hs
  | cons c t =>
      simp only [char] at hs
      split at hs
      · rw [List.mem_singleton.mp hs]
        exact List.cons_ne_nil c []
      · cases hs

/-- A pattern that takes something does so with another behind it. -/
theorem Pattern.Filled.seq {p : Pattern} (hp : p.Filled) (q : Pattern) :
    (Pattern.seq p q).Filled := by
  intro t s hs
  obtain ⟨u, hu, hs⟩ := List.mem_flatMap.mp hs
  obtain ⟨r, -, rfl⟩ := List.mem_map.mp hs
  exact List.append_ne_nil_of_left_ne_nil (hp t u hu) r.1

/-- The patterns of a rule split the text, and the first of them takes at
least one character of it. -/
structure Rule.Proper {κ : Type} (rule : Rule κ) : Prop where
  sound : ∀ part ∈ rule, part.2.Sound
  filled : ∃ part ∈ rule.head?, part.2.Filled

/-- What a proper rule takes is a beginning of the text, and not empty. -/
theorem Rule.Proper.parts {κ : Type} {rule : Rule κ} (hrule : rule.Proper)
    {t after : Text} {parts : List (κ × Text)}
    (h : rule.match? t = some (parts, after)) :
    parts.flatMap Prod.snd ++ after = t ∧ parts.flatMap Prod.snd ≠ [] := by
  refine ⟨parts_append hrule.sound h, ?_⟩
  obtain ⟨part, hpart, hfilled⟩ := hrule.filled
  cases rule with
  | nil => cases hpart
  | cons first rule =>
      cases hpart
      obtain ⟨s, hs, hmatch⟩ := List.exists_of_findSome?_eq_some h
      obtain ⟨r, -, heq⟩ := Option.map_eq_some_iff.mp hmatch
      cases heq
      exact List.append_ne_nil_of_left_ne_nil (hfilled t s hs) _

/-- A rule of one pattern fits where the pattern has a split. -/
theorem Rule.isSome_match?_singleton {κ : Type} {kind : κ} {p : Pattern}
    {t : Text} (h : p t ≠ []) :
    (Rule.match? [(kind, p)] t).isSome := by
  obtain ⟨s, others, hp⟩ := List.exists_cons_of_ne_nil h
  simp [match?, hp]

namespace Lexeme

variable {o : Nat} {t s after : Text} {ls ms : List Lexeme}
  {parts : List (TokenClass × Text)}

open Pattern in
theorem sound_paramPattern : paramPattern.Sound :=
  ((sound_char _).optional.seq (sound_some _)).alt
    (((sound_char _).seq (sound_char _)).alt (sound_char _))

theorem sound_paramsPattern : paramsPattern.Sound :=
  sound_paramPattern.optional.seq
    ((Pattern.sound_char _).seq sound_paramPattern.optional).star

/-- The rule of a directive takes its tilde first, and every part of it
splits the text. -/
theorem proper_directiveRule (kind : TokenClass) (chars : String) :
    (directiveRule kind chars).Proper where
  sound := by
    simp only [directiveRule, List.forall_mem_cons]
    exact ⟨Pattern.sound_char _, sound_paramsPattern, Pattern.sound_many _,
      Pattern.sound_char _, List.forall_mem_nil _⟩
  filled := ⟨_, rfl, Pattern.filled_char _⟩

/-- All rules are proper. -/
theorem proper_rules : ∀ rule ∈ rules, rule.Proper := by
  simp only [rules, List.forall_mem_cons]
  refine ⟨⟨?_, _, rfl, Pattern.filled_char _⟩, proper_directiveRule _ _,
    proper_directiveRule _ _, proper_directiveRule _ _,
    ⟨?_, _, rfl, (Pattern.filled_char _).seq _⟩,
    ⟨?_, _, rfl, (Pattern.filled_char _).seq _⟩, List.forall_mem_nil _⟩
  · simp only [List.forall_mem_cons]
    exact ⟨Pattern.sound_char _, Pattern.sound_many _,
      (Pattern.sound_char _).seq (Pattern.sound_many _),
      List.forall_mem_nil _⟩
  · simp only [List.forall_mem_cons]
    exact ⟨(Pattern.sound_char _).seq (Pattern.sound_char _).optional,
      List.forall_mem_nil _⟩
  · simp only [List.forall_mem_cons]
    exact ⟨Pattern.sound_some _, List.forall_mem_nil _⟩

/-- The parts of the first rule that fits, and what is behind them. -/
def fit? (t : Text) : Option (List (TokenClass × Text) × Text) :=
  rules.findSome? fun rule => rule.match? t

/-- What is taken is a beginning of the text, and not empty. -/
theorem parts_of_fit (h : fit? t = some (parts, after)) :
    parts.flatMap Prod.snd ++ after = t ∧ parts.flatMap Prod.snd ≠ [] := by
  obtain ⟨rule, hrule, hmatch⟩ := List.exists_of_findSome?_eq_some h
  exact (proper_rules rule hrule).parts hmatch

/-- Some rule fits wherever the text has not ended: a tilde is an error at
least, and any other character is text. -/
theorem exists_fit (ht : t ≠ []) :
    ∃ parts after, fit? t = some (parts, after) := by
  obtain ⟨c, t, rfl⟩ := List.exists_cons_of_ne_nil ht
  have hfits : ∃ rule ∈ rules, (rule.match? (c :: t)).isSome := by
    by_cases hc : c = '~'
    · refine ⟨[(.error, .seq markerPattern
        (.optional (.char (· != '\n'))))], by simp [rules], ?_⟩
      apply Rule.isSome_match?_singleton
      simp [Pattern.seq, markerPattern, Pattern.char, hc, Pattern.optional]
    · refine ⟨[(.text, .some (· != '~'))], by simp [rules], ?_⟩
      apply Rule.isSome_match?_singleton
      have hchar : (c != '~') = true := bne_iff_ne.mpr hc
      obtain ⟨others, hmany, -⟩ :=
        Pattern.first_many_takeWhile (· != '~') t
      simp [Pattern.some, Pattern.seq, Pattern.char, hchar, hmany]
  obtain ⟨⟨parts, after⟩, hfit⟩ := Option.isSome_iff_exists.mp
    (List.findSome?_isSome_iff.mpr hfits)
  exact ⟨parts, after, hfit⟩

/-- A step puts down what a rule takes, and goes on behind it. -/
theorem scan_of_fit (h : fit? t = some (parts, after)) :
    scan o t = ofParts o parts
      ++ scan (o + (parts.flatMap Prod.snd).length) after := by
  obtain ⟨happend, hne⟩ := parts_of_fit h
  have hpos := List.length_pos_iff.mpr hne
  have hlength := congrArg List.length happend
  rw [List.length_append] at hlength
  cases t with
  | nil =>
      rw [List.length_nil] at hlength
      omega
  | cons c rest =>
      rw [List.length_cons] at hlength
      have hshorter : after.length < rest.length + 1 := by omega
      have hcount : rest.length + 1 - after.length
          = (parts.flatMap Prod.snd).length := by omega
      rw [scan, show (rules.findSome? fun rule => rule.match? (c :: rest))
        = some (parts, after) from h]
      simp only [hshorter, if_true, hcount]

-- =============================================================== tilings

/-- Tokens one behind the other, from an offset on: none is empty, each
starts where the one in front of it ends, and together they are the
text. -/
inductive Tiles : Nat → List Lexeme → Text → Prop
  | nil {o : Nat} : Tiles o [] []
  | cons {o : Nat} {kind : TokenClass} {s t : Text} {ls : List Lexeme}
      (hs : s ≠ []) (hrest : Tiles (o + s.length) ls t) :
      Tiles o (⟨kind, o, s⟩ :: ls) (s ++ t)

/-- Lexemes behind lexemes cover text behind text. -/
theorem Tiles.append (h : Tiles o ls s) (hm : Tiles (o + s.length) ms t) :
    Tiles o (ls ++ ms) (s ++ t) := by
  induction h with
  | nil => exact hm
  | @cons o kind u s ls hu hrest ih =>
      rw [List.append_assoc]
      rw [List.length_append, ← Nat.add_assoc] at hm
      exact .cons hu (ih hm)

/-- Parts put down are tokens one behind the other. -/
theorem tiles_ofParts (o : Nat) (parts : List (TokenClass × Text)) :
    Tiles o (ofParts o parts) (parts.flatMap Prod.snd) := by
  induction parts generalizing o with
  | nil => exact .nil
  | cons part parts ih =>
      obtain ⟨kind, u⟩ := part
      rw [List.flatMap_cons, ofParts]
      cases u with
      | nil => exact ih o
      | cons c u => exact .cons (List.cons_ne_nil c u) (ih _)

/-- A scan covers the text from its place on. Where no rule matches it
takes one character, so by induction on the text that is left. -/
theorem tiles_scan (o : Nat) (t : Text) : Tiles o (scan o t) t := by
  induction hlength : t.length using Nat.strongRecOn generalizing o t with
  | ind n ih =>
      by_cases ht : t = []
      · subst ht
        rw [scan]
        exact .nil
      · obtain ⟨parts, after, hfit⟩ := exists_fit ht
        obtain ⟨happend, hne⟩ := parts_of_fit hfit
        rw [scan_of_fit hfit]
        conv => rhs; rw [← happend]
        refine (tiles_ofParts o parts).append (ih after.length ?_ _ _ rfl)
        rw [← hlength, ← happend, List.length_append]
        exact Nat.lt_add_of_pos_left (List.length_pos_iff.mpr hne)

/-- No lexeme is empty. -/
theorem Tiles.text_ne_nil (h : Tiles o ls t) : ∀ l ∈ ls, l.text ≠ [] := by
  induction h with
  | nil => exact List.forall_mem_nil _
  | cons hs _ ih => exact List.forall_mem_cons.mpr ⟨hs, ih⟩

/-- Together they are the text. -/
theorem Tiles.flatMap_text (h : Tiles o ls t) :
    ls.flatMap Lexeme.text = t := by
  induction h with
  | nil => rfl
  | cons _ _ ih => rw [List.flatMap_cons, ih]

/-- A token starts behind all that is in the tokens in front of it. -/
theorem Tiles.offset_eq (h : Tiles o ls t) {before behind : List Lexeme}
    {l : Lexeme} (hls : ls = before ++ l :: behind) :
    l.offset = o + (before.flatMap Lexeme.text).length := by
  induction h generalizing before with
  | nil => simp at hls
  | @cons o kind s t ls hs hrest ih =>
      cases before with
      | nil =>
          cases hls
          rfl
      | cons first before =>
          cases hls
          rw [ih rfl, List.flatMap_cons, List.length_append]
          exact Nat.add_assoc _ _ _

/-- Nothing of a text is lost in its tokens. None of them is empty, they
follow one another without a gap from the start, and what they hold is the
text. -/
theorem ofText_tiles (t : Text) :
    (∀ l ∈ ofText t, l.text ≠ [])
      ∧ (∀ before l behind, ofText t = before ++ l :: behind →
        l.offset = (before.flatMap Lexeme.text).length)
      ∧ (ofText t).flatMap Lexeme.text = t := by
  have htiles := tiles_scan 0 t
  refine ⟨htiles.text_ne_nil, ?_, htiles.flatMap_text⟩
  intro before l behind hls
  rw [htiles.offset_eq hls, Nat.zero_add]

end Lexeme

end TildeFormat
