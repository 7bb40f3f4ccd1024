/-
What the tokens of an accepted template say of its directives, against
what reading the template says of them.

Markers, errors, line breaks and the places of characters are read off the
tokens of one directive first (`DirectiveSource.Shown.markers` and so on),
and then off those of the whole template by induction over its directives
(`Shown.markers`).

Where no token is an error, the markers are the tildes of the directives,
with the parameters, the modifiers and the character behind each. There are
two places where the two descriptions depart from each other. The long s
stands for the directive of the s, but its tilde is an error; and a joined
line is shown with the spaces and tabs behind its line break, whether these
are all that it skips or not.
-/
import TildeFormat.Proofs.Highlight.Layout

namespace TildeFormat

namespace Lexeme

variable {o : Nat} {t ps ms behind : Text} {c : Character} {kind : TokenClass}
  {ls rest : List Lexeme}

-- =============================================================== markers

/-- A marker, with what follows it: a token of parameters or none, a token
of modifiers or none, and the first character of the next token. -/
structure Marker where
  offset : Nat
  text : Text
  params : Text
  modifiers : Text
  next : Option Character
deriving DecidableEq

/-- The text of the first token if it is of a class, and the tokens behind
it. -/
def takeClass (kind : TokenClass) : List Lexeme → Text × List Lexeme
  | [] => ([], [])
  | l :: ls => if l.kind = kind then (l.text, ls) else ([], l :: ls)

/-- The markers among tokens. -/
def markers : List Lexeme → List Marker
  | [] => []
  | l :: ls =>
    if l.kind = .marker then
      let params := takeClass .params ls
      let modifiers := takeClass .modifiers params.2
      let next := modifiers.2.head?.bind fun l => l.text.head?
      ⟨l.offset, l.text, params.1, modifiers.1, next⟩ :: markers ls
    else markers ls

theorem markers_append_of_ne (h : ∀ l ∈ ls, l.kind ≠ .marker) :
    markers (ls ++ rest) = markers rest := by
  induction ls with
  | nil => rfl
  | cons l ls ih =>
      obtain ⟨hl, hls⟩ := List.forall_mem_cons.mp h
      rw [List.cons_append, markers, if_neg hl, ih hls]

/-- Where no part is of a class, no token is. -/
theorem kind_ne_of_parts {parts : List (TokenClass × Text)}
    (h : ∀ part ∈ parts, part.1 ≠ kind) :
    ∀ l ∈ ofParts o parts, l.kind ≠ kind := by
  intro l hl
  obtain ⟨part, hpart, hkind⟩ := kind_of_mem_ofParts hl
  exact hkind ▸ h part hpart

theorem kind_ne_of_text (hkind : kind ≠ .text) :
    ∀ l ∈ ofParts o [(.text, t)], l.kind ≠ kind :=
  kind_ne_of_parts (List.forall_mem_singleton.mpr hkind.symm)

/-- The class of a directive's character is none of those in front of it,
nor is it an error or a line break. -/
theorem kind_of_class (hclass : directiveClass? c = some kind) :
    kind ≠ .marker ∧ kind ≠ .params ∧ kind ≠ .modifiers
      ∧ kind ≠ .error ∧ kind ≠ .continuation := by
  obtain ⟨entry, hentry, hkind⟩ := List.exists_of_findSome?_eq_some hclass
  have hall : ∀ entry ∈ classes, entry.1 ≠ .marker ∧ entry.1 ≠ .params
      ∧ entry.1 ≠ .modifiers ∧ entry.1 ≠ .error
      ∧ entry.1 ≠ .continuation := by decide
  split at hkind
  · cases hkind
    exact hall entry hentry
  · cases hkind

/-- Neither the line break nor the long s is in a class. -/
theorem ne_of_class (hclass : directiveClass? c = some kind) :
    c ≠ '\n' ∧ c ≠ longS := by
  have hbreak : directiveClass? '\n' = none := by decide
  have hlong : directiveClass? longS = none := by decide
  constructor
  · rintro rfl
    cases hbreak.symm.trans hclass
  · rintro rfl
    cases hlong.symm.trans hclass

theorem markers_directiveParts (hclass : directiveClass? c = some kind) :
    markers (ofParts o (directiveParts ps ms c kind) ++ rest)
      = ⟨o, ['~'], ps, ms, some c⟩ :: markers rest := by
  obtain ⟨hmarker, hparams, hmodifiers, -⟩ := kind_of_class hclass
  cases ps <;> cases ms <;>
    simp [directiveParts, ofParts, markers, takeClass, hmarker, hparams,
      hmodifiers]

/-- No part of such a directive is an error or a line break. -/
theorem kind_ne_of_directiveParts (hclass : directiveClass? c = some kind) :
    ∀ l ∈ ofParts o (directiveParts ps ms c kind),
      l.kind ≠ .error ∧ l.kind ≠ .continuation := by
  obtain ⟨-, -, -, herror, hbreak⟩ := kind_of_class hclass
  intro l hl
  constructor
  · exact kind_ne_of_parts (by simp [directiveParts, herror]) l hl
  · exact kind_ne_of_parts (by simp [directiveParts, hbreak]) l hl

theorem markers_joinParts :
    markers (ofParts o (joinParts ms behind) ++ rest)
      = ⟨o, ['~'], [], ms, some '\n'⟩ :: markers rest := by
  cases ms <;> simp [joinParts, ofParts, markers, takeClass]

end Lexeme

open Lexeme

/-- The offset is inside of the token. -/
def Lexeme.Holds (l : Lexeme) (i : Nat) : Prop :=
  l.offset ≤ i ∧ i < l.offset + l.text.length

/-- Every character of a text is in its token. -/
theorem exists_text_holds {o i : Nat} {t : Text} (hfrom : o ≤ i)
    (hto : i < o + t.length) :
    ∃ l ∈ ofParts o [(.text, t)], l.kind = .text ∧ l.Holds i := by
  cases t with
  | nil => exact absurd hto (Nat.not_lt.mpr hfrom)
  | cons c t =>
      exact ⟨⟨.text, o, c :: t⟩, List.mem_cons_self, rfl, hfrom, hto⟩

-- ======================================================== one directive

namespace DirectiveSource

variable {d : DirectiveSource} {ls : List Lexeme} {o : Nat} {t : Text}

/-- The marker of a directive. -/
def marker (d : DirectiveSource) : Marker :=
  ⟨d.offset, ['~'], d.params, d.modifiers, some d.char⟩

/-- The line break of a joined line, with white space behind it, as a
token. -/
def lineBreak (d : DirectiveSource) (blanks : Text) : Lexeme :=
  ⟨.continuation, d.stop - 1, '\n' :: blanks⟩

/-- The offset is inside of the directive. -/
def Holds (d : DirectiveSource) (i : Nat) : Prop :=
  d.offset ≤ i ∧ i < d.stop

instance (d : DirectiveSource) (i : Nat) : Decidable (d.Holds i) :=
  inferInstanceAs (Decidable (_ ∧ _))

/-- The offset is in the spaces and tabs behind a joined line. -/
def Trails (d : DirectiveSource) (i : Nat) : Prop :=
  d.char = '\n' ∧ d.stop ≤ i ∧ i < d.stop + d.blanks.length

instance (d : DirectiveSource) (i : Nat) : Decidable (d.Trails i) :=
  inferInstanceAs (Decidable (_ ∧ _))

namespace Shown

/-- Among the tokens of a directive there is an error just when its
character is the long s. -/
theorem error_iff (h : d.Shown ls o t) :
    (∃ l ∈ ls, l.kind = .error) ↔ d.char = longS := by
  cases h with
  | classed hclass =>
      constructor
      · rintro ⟨l, hl, herror⟩
        exact absurd herror (kind_ne_of_directiveParts hclass l hl).1
      · exact fun hlong => absurd hlong (ne_of_class hclass).2
  | joined hbreak =>
      constructor
      · rintro ⟨l, hl, herror⟩
        refine absurd herror (kind_ne_of_parts ?_ l hl)
        simp [joinParts]
      · intro hlong
        rw [hlong] at hbreak
        exact absurd hbreak (by decide)
  | stray hlong hls => exact ⟨fun _ => hlong, fun _ => hls.error⟩

/-- Scanning goes on behind the directive, or behind the spaces and tabs
that trail it. -/
theorem placed (h : d.Shown ls o t) (hchar : d.char ≠ longS) {i : Nat}
    (hfrom : d.offset ≤ i) (hto : i < o) : d.Holds i ∨ d.Trails i := by
  by_cases hstop : i < d.stop
  · exact .inl ⟨hfrom, hstop⟩
  · cases h with
    | classed => exact absurd hto hstop
    | joined hbreak => exact .inr ⟨hbreak, Nat.le_of_not_lt hstop, hto⟩
    | stray hlong => exact absurd hlong hchar

/-- Scanning goes on with what is left of the text. -/
theorem end_eq (h : d.Shown ls o t) :
    o + t.length = d.stop + d.behind.length := by
  cases h with
  | classed => rfl
  | joined =>
      have hsplit := congrArg List.length
        (List.takeWhile_append_dropWhile (p := oneOf " \t")
          (l := d.behind))
      rw [List.length_append] at hsplit
      rw [← hsplit, ← Nat.add_assoc]
      rfl
  | stray _ _ _ hstop => rw [List.length_append, ← Nat.add_assoc, hstop]

theorem markers (h : d.Shown ls o t) (hchar : d.char ≠ longS)
    (rest : List Lexeme) :
    Lexeme.markers (ls ++ rest) = d.marker :: Lexeme.markers rest := by
  cases h with
  | classed hclass => exact markers_directiveParts hclass
  | joined hbreak hbare =>
      rw [markers_joinParts, DirectiveSource.marker, hbreak, hbare]
  | stray hlong => exact absurd hlong hchar

/-- Only a joined line has a line break among its tokens. -/
theorem lineBreaks (h : d.Shown ls o t) :
    ls.filter (·.kind = .continuation)
      = if d.char = '\n' then [d.lineBreak d.blanks] else [] := by
  have hnone (hls : ∀ l ∈ ls, l.kind ≠ .continuation) :
      ls.filter (·.kind = .continuation) = [] :=
    List.filter_eq_nil_iff.mpr fun l hl => by simp [hls l hl]
  cases h with
  | classed hclass =>
      rw [hnone fun l hl => (kind_ne_of_directiveParts hclass l hl).2,
        if_neg (ne_of_class hclass).1]
  | joined hbreak hbare =>
      have hplace : d.stop - 1 = d.offset + 1 + d.modifiers.length := by
        simp only [DirectiveSource.stop, DirectiveSource.text, hbare,
          List.nil_append, List.length_cons, List.length_append,
          List.length_nil]
        omega
      rw [if_pos hbreak, lineBreak, hplace, blanks]
      cases d.modifiers <;> simp [joinParts, ofParts]
  | stray hlong hls =>
      rw [hnone, if_neg]
      · rw [hlong]
        decide
      · intro l hl
        rcases hls.plain l hl with hkind | hkind <;> simp [hkind]

end Shown

end DirectiveSource

-- ============================================================= templates

namespace Shown

variable {o : Nat} {t : Text} {ds : List DirectiveSource}
  {ls : List Lexeme}

/-- There is an error among the tokens just when there is a directive of
the long s. -/
theorem error_iff (h : Shown o t ds ls) :
    (∃ l ∈ ls, l.kind = .error) ↔ ∃ d ∈ ds, d.char = longS := by
  have hrun (o : Nat) (run : Text) :
      ¬∃ l ∈ ofParts o [(.text, run)], l.kind = .error := by
    rintro ⟨l, hl, herror⟩
    exact kind_ne_of_text (by decide) l hl herror
  induction h with
  | last htilde => simp [hrun]
  | directive hoffset hd _ ih =>
      simp only [List.mem_append, List.mem_cons, or_and_right, exists_or,
        exists_eq_left, hrun, hd.error_iff, ih, false_or]

/-- Where there is no error, the markers are those of the directives. -/
theorem markers (h : Shown o t ds ls)
    (hchars : ∀ d ∈ ds, d.char ≠ longS) :
    Lexeme.markers ls = ds.map DirectiveSource.marker := by
  have hrun (o : Nat) (run : Text) :
      ∀ l ∈ ofParts o [(.text, run)], l.kind ≠ .marker :=
    kind_ne_of_text (by decide)
  induction h with
  | last =>
      rw [← List.append_nil (ofParts _ _), markers_append_of_ne (hrun _ _)]
      rfl
  | directive hoffset hd _ ih =>
      obtain ⟨hchar, hchars⟩ := List.forall_mem_cons.mp hchars
      rw [markers_append_of_ne (hrun _ _), hd.markers hchar, ih hchars,
        List.map_cons]

/-- The line breaks are those of the joined lines, each with the spaces and
tabs behind it. -/
theorem lineBreaks (h : Shown o t ds ls) :
    ls.filter (·.kind = .continuation)
      = (ds.filter (·.char = .scalar '\n')).map fun d =>
          d.lineBreak d.blanks := by
  have hrun (o : Nat) (run : Text) :
      (ofParts o [(.text, run)]).filter (·.kind = .continuation) = [] := by
    apply List.filter_eq_nil_iff.mpr
    intro l hl
    have hother : l.kind ≠ .continuation :=
      kind_ne_of_text (by decide) l hl
    simp [hother]
  induction h with
  | last => exact hrun _ _
  | @directive _ _ _ _ d _ _ _ hoffset hd _ ih =>
      rw [List.filter_append, hrun, List.nil_append, List.filter_append,
        hd.lineBreaks, ih]
      by_cases hbreak : d.char = '\n' <;> simp [hbreak]

/-- Where there is no error, a character that is in no directive and not
behind a joined line is in text. -/
theorem placed (h : Shown o t ds ls) (hchars : ∀ d ∈ ds, d.char ≠ longS)
    {i : Nat} (hfrom : o ≤ i) (hto : i < o + t.length) :
    (∃ d ∈ ds, d.Holds i ∨ d.Trails i)
      ∨ ∃ l ∈ ls, l.kind = .text ∧ l.Holds i := by
  induction h with
  | last => exact .inr (exists_text_holds hfrom hto)
  | @directive o o' run t d ds ls rest hoffset hd _ ih =>
      obtain ⟨hchar, hchars⟩ := List.forall_mem_cons.mp hchars
      by_cases hrun : i < o + run.length
      · obtain ⟨l, hl, hkind⟩ := exists_text_holds hfrom hrun
        exact .inr ⟨l, List.mem_append_left _ hl, hkind⟩
      · by_cases hdirective : i < o'
        · have hin := hd.placed hchar (by omega) hdirective
          exact .inl ⟨d, List.mem_cons_self, hin⟩
        · have hend : o' + t.length
              = o + (run ++ (d.text ++ d.behind)).length := by
            rw [hd.end_eq, List.length_append, List.length_append,
              DirectiveSource.stop, hoffset]
            omega
          rcases ih hchars (Nat.le_of_not_lt hdirective) (hend ▸ hto) with
            ⟨d, hmem, hin⟩ | ⟨l, hl, hkind⟩
          · exact .inl ⟨d, List.mem_cons_of_mem _ hmem, hin⟩
          · exact .inr ⟨l, List.mem_append_right _
              (List.mem_append_right _ hl), hkind⟩

end Shown

variable {settings : Settings} {t : Text} {tree : List Node}

/-- The tokens of an accepted template, where none of them is an error,
show its directives as they are read. The markers are the tildes of the
directives in their order, followed by the parameters, the modifiers and
the character of each; and a character that is in no directive is text,
unless it is among the spaces and tabs behind a joined line. -/
theorem ofText_agrees (h : parse (.builtin settings) t = .ok tree)
    (hclear : ∀ l ∈ ofText t, l.kind ≠ .error) :
    let ds := directiveSources (.builtin settings) (.start t)
    markers (ofText t) = ds.map DirectiveSource.marker
      ∧ ∀ i, i < t.length → (∀ d ∈ ds, ¬d.Holds i ∧ ¬d.Trails i) →
        ∃ l ∈ ofText t, l.kind = .text ∧ l.Holds i := by
  intro ds
  have hshown : Shown 0 t ds (ofText t) := shown_of_marked (marked_of_parse h)
  have hchars : ∀ d ∈ ds, d.char ≠ longS := by
    intro d hd hlong
    obtain ⟨l, hl, herror⟩ := hshown.error_iff.mpr ⟨d, hd, hlong⟩
    exact hclear l hl herror
  refine ⟨hshown.markers hchars, ?_⟩
  intro i hi hout
  rcases hshown.placed hchars (Nat.zero_le i)
    (Nat.lt_of_lt_of_eq hi (Nat.zero_add _).symm) with
    ⟨d, hd, hholds | htrails⟩ | htext
  · exact absurd hholds (hout d hd).1
  · exact absurd htrails (hout d hd).2
  · exact htext

/-- A loop with a quoted tilde in its body, and a joined line behind it. -/
def shownTemplate : Text := word "~\x7b~5,'~:D~^, ~\x7d~@\n  ."

theorem ofText_agrees_shownTemplate :
    ∃ tree, parse .standard shownTemplate = .ok tree
      ∧ (∀ l ∈ ofText shownTemplate, l.kind ≠ .error)
      ∧ markers (ofText shownTemplate)
        = [⟨0, ['~'], [], [], '\x7b'⟩,
          ⟨2, ['~'], word "5,'~", [':'], 'D'⟩, ⟨9, ['~'], [], [], '^'⟩,
          ⟨13, ['~'], [], [], '\x7d'⟩, ⟨15, ['~'], [], ['@'], '\n'⟩]
      ∧ ∃ l ∈ ofText shownTemplate, l.kind = .text ∧ l.Holds 11 := by
  obtain ⟨tree, hparse⟩ :
      ∃ tree, parse .standard shownTemplate = .ok tree :=
    ⟨_, by with_unfolding_all rfl⟩
  have hsources : directiveSources (.builtin .standard)
      (Place.start shownTemplate)
      = [⟨0, [], [], '\x7b', word "~5,'~:D~^, ~\x7d~@\n  .", []⟩,
        ⟨2, word "5,'~", [':'], 'D', word "~^, ~\x7d~@\n  .", []⟩,
        ⟨9, [], [], '^', word ", ~\x7d~@\n  .", []⟩,
        ⟨13, [], [], '\x7d', word "~@\n  .", []⟩,
        ⟨15, [], ['@'], '\n', word "  .", word "  "⟩] := by
    with_unfolding_all rfl
  have htokens : ofText shownTemplate
      = [⟨.marker, 0, ['~']⟩, ⟨.bracket, 1, ['\x7b']⟩,
        ⟨.marker, 2, ['~']⟩, ⟨.params, 3, word "5,'~"⟩,
        ⟨.modifiers, 7, [':']⟩, ⟨.printing, 8, ['D']⟩,
        ⟨.marker, 9, ['~']⟩, ⟨.bracket, 10, ['^']⟩, ⟨.text, 11, word ", "⟩,
        ⟨.marker, 13, ['~']⟩, ⟨.bracket, 14, ['\x7d']⟩,
        ⟨.marker, 15, ['~']⟩, ⟨.modifiers, 16, ['@']⟩,
        ⟨.continuation, 17, word "\n  "⟩, ⟨.text, 20, ['.']⟩] := by
    with_unfolding_all rfl
  have hclear : ∀ l ∈ ofText shownTemplate, l.kind ≠ .error := by
    rw [htokens]
    decide
  have hagrees := ofText_agrees hparse hclear
  rw [hsources] at hagrees
  refine ⟨tree, hparse, hclear, hagrees.1, hagrees.2 11 (by decide) ?_⟩
  decide

-- =========================================================== joined lines

/-- A joined line is shown as it is read: where a colon keeps the white
space no space or tab is behind the line break, and elsewhere the white
space that is skipped is spaces and tabs. -/
def DirectiveSource.ShownAsRead (d : DirectiveSource) : Prop :=
  if .scalar ':' ∈ d.modifiers then Stops (oneOf " \t") d.behind
  else ∀ c ∈ d.skipped, oneOf " \t" c = true

theorem isIndentation_of_blank {c : Character} (h : oneOf " \t" c = true) :
    isIndentation c = true := by
  have hall : ∀ d ∈ word " \t", isIndentation d = true :=
    List.all_iff_forall_prop.mp (by decide)
  exact hall c (mem_of_oneOf h)

theorem DirectiveSource.Regular.shownAsRead_iff {d : DirectiveSource}
    (h : d.Regular) (hbreak : d.char = '\n') :
    d.blanks = d.skipped ↔ d.ShownAsRead := by
  unfold DirectiveSource.ShownAsRead DirectiveSource.blanks
  rw [h.skips]
  by_cases hcolon : .scalar ':' ∈ d.modifiers
  · rw [if_neg fun hplain => hplain.2 hcolon, if_pos hcolon]
    exact takeWhile_eq_nil_iff
  · rw [if_pos ⟨hbreak, hcolon⟩, if_neg hcolon]
    constructor
    · intro heq c hc
      rw [← heq] at hc
      exact List.mem_takeWhile_imp hc
    · intro hall
      have hstops : Stops (oneOf " \t")
          (d.behind.dropWhile isIndentation) := by
        intro c hc
        have hnot := stops_dropWhile isIndentation d.behind c hc
        rw [Bool.eq_false_iff] at hnot ⊢
        exact fun hblank => hnot (isIndentation_of_blank hblank)
      conv => lhs; rw [← List.takeWhile_append_dropWhile
        (p := isIndentation) (l := d.behind)]
      exact takeWhile_append_stops hall hstops

/-- Where the tokens of an accepted template depart from how it is read.
There is an error just when there is a directive of the long s. The line
breaks shown are those of the joined lines, each with the spaces and tabs
behind it; so they are shown with what reading skips just when every joined
line is shown as it is read. -/
theorem ofText_departs (h : parse (.builtin settings) t = .ok tree) :
    let ds := directiveSources (.builtin settings) (.start t)
    let joined := ds.filter (·.char = .scalar '\n')
    let shown := (ofText t).filter (·.kind = .continuation)
    ((∃ l ∈ ofText t, l.kind = .error) ↔ ∃ d ∈ ds, d.char = longS)
      ∧ shown = joined.map (fun d => d.lineBreak d.blanks)
      ∧ (shown = joined.map (fun d => d.lineBreak d.skipped)
        ↔ ∀ d ∈ joined, d.ShownAsRead) := by
  intro ds joined shown
  have hmarked : Marked 0 t ds := marked_of_parse h
  have hshown : Shown 0 t ds (ofText t) := shown_of_marked hmarked
  refine ⟨hshown.error_iff, hshown.lineBreaks, ?_⟩
  rw [show shown = _ from hshown.lineBreaks, List.map_inj_left]
  apply forall₂_congr
  intro d hd
  obtain ⟨hmem, hbreak⟩ := List.mem_filter.mp hd
  rw [← (hmarked.regular d hmem).shownAsRead_iff (of_decide_eq_true hbreak)]
  simp [DirectiveSource.lineBreak]

/-- A directive of the long s with a quoted tilde, a joined line that keeps
its white space, and one that skips more than spaces and tabs. -/
def departingTemplate : Text := word "~5,1,0,'~\u017f~:\n  x~\n\x0b y"

theorem ofText_departs_departingTemplate :
    ∃ tree, parse .standard departingTemplate = .ok tree
      ∧ (∃ l ∈ ofText departingTemplate, l.kind = .error)
      ∧ (ofText departingTemplate).filter (·.kind = .continuation)
        = [⟨.continuation, 12, word "\n  "⟩, ⟨.continuation, 17, ['\n']⟩]
      ∧ (ofText departingTemplate).filter (·.kind = .continuation)
        ≠ [⟨.continuation, 12, ['\n']⟩,
          ⟨.continuation, 17, word "\n\x0b "⟩] := by
  obtain ⟨tree, hparse⟩ :
      ∃ tree, parse .standard departingTemplate = .ok tree :=
    ⟨_, by with_unfolding_all rfl⟩
  have hsources : directiveSources (.builtin .standard)
      (Place.start departingTemplate)
      = [⟨0, word "5,1,0,'~", [], longS, word "~:\n  x~\n\x0b y", []⟩,
        ⟨10, [], [':'], '\n', word "  x~\n\x0b y", []⟩,
        ⟨16, [], [], '\n', word "\x0b y", word "\x0b "⟩] := by
    with_unfolding_all rfl
  have hdeparts := ofText_departs hparse
  rw [hsources] at hdeparts
  obtain ⟨herror, hshown, hread⟩ := hdeparts
  refine ⟨tree, hparse, herror.mpr ⟨_, List.mem_cons_self, rfl⟩, hshown, ?_⟩
  intro hskipped
  -- the colon keeps two spaces, which are shown with the line break
  have hkept := hread.mp hskipped
    ⟨10, [], [':'], '\n', word "  x~\n\x0b y", []⟩ (by decide)
  rw [DirectiveSource.ShownAsRead, if_pos (by decide)] at hkept
  exact absurd (hkept ' ' rfl) (by decide)

end TildeFormat
