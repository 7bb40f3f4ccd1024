/-
The tokens of a template in the order of its directives (`Shown`). In front
of a directive there is text; then come the tokens of the directive itself,
which are of one of three kinds (`DirectiveSource.Shown`): its parts, the
parts of a joined line, or errors where its character is a long s.

Scanning does not always go on right behind a directive. Behind a joined
line it has passed spaces and tabs, and behind an error it may still be
inside of the directive. It has passed no tilde by that, nor left one out,
so the tildes of the other directives are where they are to be from there
on as well (`Marked.front`, `Marked.behind`). That carries the induction
over the directives.
-/
import TildeFormat.Proofs.Highlight.Directive

namespace TildeFormat

namespace Lexeme

variable {o : Nat} {source : ParamSource} {params : List Param}
  {t v w ps ms pre post rest : Text} {ls : List Lexeme}

-- ================================================================= text

/-- Text without a tilde is one token, or none if it is empty. -/
theorem scan_text (htilde : .scalar '~' ∉ t) (hrest : Fresh rest) :
    scan o (t ++ rest)
      = ofParts o [(.text, t)] ++ scan (o + t.length) rest := by
  by_cases ht : t = []
  · subst ht
    rfl
  · rw [scan_of_fit (fit?_text ht htilde hrest)]
    simp

-- =============================================================== errors

/-- A tilde in a parameter is its last character. -/
theorem eq_nil_of_tilde (h : source.Spelling w)
    (hw : w = pre ++ .scalar '~' :: post) : post = [] := by
  have htilde : .scalar '~' ∈ w := by simp [hw]
  have hnumeral {ds : Text} (hds : IsNumeral ds) : .scalar '~' ∉ ds :=
    fun hmem => absurd (hds.2 _ hmem) (by decide)
  cases h with
  | omitted => cases htilde
  | unsigned hds => exact absurd htilde (hnumeral hds)
  | plus hds | minus hds =>
      rcases List.mem_cons.mp htilde with hsign | hmem
      · exact absurd hsign (by decide)
      · exact absurd hmem (hnumeral hds)
  | character c =>
      have hlength := congrArg List.length hw
      cases pre with
      | nil => cases hw
      | cons d pre =>
          simp only [List.length_append, List.length_cons,
            List.length_nil] at hlength
          exact List.eq_nil_of_length_eq_zero (by omega)
  | nextArgument hc =>
      rcases hc with rfl | rfl <;> exact absurd htilde (by decide)
  | remaining => exact absurd htilde (by decide)

/-- What stands behind a quoted tilde in a parameter list is a parameter
list. -/
theorem params_behind_tilde (h : SlotsSpelling o params w)
    (hw : w = pre ++ .scalar '~' :: post) :
    ∃ o params, ParamsSpelling o params post := by
  induction h generalizing pre with
  | last hsource =>
      rw [eq_nil_of_tilde hsource hw]
      exact ⟨0, [], .none⟩
  | @more o source w tail params hsource hrest ih =>
      rcases List.append_eq_append_iff.mp hw with
        ⟨left, -, hleft⟩ | ⟨left, hleft, htail⟩
      · cases left with
        | nil => cases hleft
        | cons c left =>
            obtain ⟨-, htail⟩ := List.cons.inj hleft
            exact ih htail
      · cases left with
        | nil => cases htail
        | cons c left =>
            obtain ⟨rfl, rfl⟩ := List.cons.inj htail
            rw [eq_nil_of_tilde hsource hleft]
            exact ⟨_, _, .some (.more .omitted hrest)
              (List.cons_ne_nil _ _)⟩

/-- The tokens of parts are of the classes of the parts. -/
theorem kind_of_mem_ofParts {parts : List (TokenClass × Text)} {l : Lexeme}
    (hl : l ∈ ofParts o parts) : ∃ part ∈ parts, l.kind = part.1 := by
  induction parts generalizing o with
  | nil => cases hl
  | cons part parts ih =>
      obtain ⟨kind, u⟩ := part
      have hrest (h : l ∈ ofParts (o + u.length) parts) :
          ∃ part ∈ (kind, u) :: parts, l.kind = part.1 := by
        obtain ⟨part, hpart, hkind⟩ := ih h
        exact ⟨part, List.mem_cons_of_mem _ hpart, hkind⟩
      rw [ofParts] at hl
      split at hl
      · exact hrest hl
      · rcases List.mem_cons.mp hl with rfl | hl
        · exact ⟨_, List.mem_cons_self, rfl⟩
        · exact hrest hl

/-- Errors, with text between them. -/
structure Strays (ls : List Lexeme) : Prop where
  error : ∃ l ∈ ls, l.kind = .error
  plain : ∀ l ∈ ls, l.kind = .error ∨ l.kind = .text

/-- A tilde with the character behind it, and text up to more errors. -/
theorem Strays.behind {d : Character} (h : Strays ls) (o : Nat) (t : Text) :
    Strays (ofParts o [(.error, ['~', d]), (.text, t)] ++ ls) := by
  obtain ⟨⟨l, hl, herror⟩, hplain⟩ := h
  refine ⟨⟨l, List.mem_append_right _ hl, herror⟩, ?_⟩
  intro l hl
  rcases List.mem_append.mp hl with hl | hl
  · obtain ⟨part, hpart, hkind⟩ := kind_of_mem_ofParts hl
    simp only [List.mem_cons, List.not_mem_nil, or_false] at hpart
    rcases hpart with rfl | rfl
    · exact .inl hkind
    · exact .inr hkind
  · exact hplain l hl

theorem strays_singleton (o : Nat) (d : Character) :
    Strays (ofParts o [(.error, ['~', d])]) :=
  ⟨⟨_, List.mem_cons_self, rfl⟩, fun _ hl =>
    .inl (congrArg Lexeme.kind (List.mem_singleton.mp hl))⟩

/-- Behind the parameters of a directive of the long s there are modifiers
and the long s. -/
theorem not_mem_longS (h : Written ps ms longS) {c : Character}
    (hc : c ∉ ([':', '@', longS] : Text)) : c ∉ ms ++ [longS] := by
  intro hmem
  apply hc
  rcases List.mem_append.mp hmem with hmem | hmem
  · exact List.mem_append_left [longS] (h.modifiers c hmem)
  · exact List.mem_append_right ([':', '@'] : Text) hmem

/-- The character behind the tilde of a directive of the long s is on the
same line. -/
theorem exists_cons_longS (h : Written ps ms longS) :
    ∃ d t, ps ++ (ms ++ [longS]) = d :: t ∧ d ≠ '\n' := by
  obtain ⟨d, t, ht⟩ := List.exists_cons_of_ne_nil
    (show ps ++ (ms ++ [longS]) ≠ [] by simp)
  refine ⟨d, t, ht, ?_⟩
  rintro rfl
  by_cases hnone : ps = []
  · rw [hnone, List.nil_append] at ht
    refine not_mem_longS h (by decide : Character.scalar '\n' ∉ _) ?_
    rw [ht]
    exact List.mem_cons_self
  · have hslot := begins_of_params h hnone (ms ++ [longS])
    exact head?_ne_of_begins hslot (by decide) (congrArg List.head? ht)

/-- A tilde behind the first character of a directive of the long s is a
quoted one, and what is behind it is written like the directive. -/
theorem written_of_tilde_longS {d : Character} (h : Written ps ms longS)
    (hw : ps ++ (ms ++ [longS]) = d :: (pre ++ .scalar '~' :: post)) :
    ∃ more, Written more ms longS ∧ ps = d :: (pre ++ .scalar '~' :: more)
      ∧ post = more ++ (ms ++ [longS]) := by
  have hnone := not_mem_longS h (by decide : Character.scalar '~' ∉ _)
  rcases List.append_eq_append_iff.mp (hw.trans (List.cons_append ..).symm)
    with ⟨left, -, hleft⟩ | ⟨left, hleft, hpost⟩
  · exact absurd (by simp [hleft]) hnone
  · cases left with
    | nil =>
        rw [List.nil_append] at hpost
        exact absurd (hpost ▸ List.mem_cons_self) hnone
    | cons c more =>
        obtain ⟨rfl, rfl⟩ := List.cons.inj hpost
        obtain ⟨o, params, hps⟩ := h.params
        cases hps with
        | none => cases hleft
        | some hslots =>
            exact ⟨more, ⟨params_behind_tilde hslots hleft, h.modifiers,
              h.char⟩, hleft, rfl⟩

/-- A directive of the long s is scanned as errors, from each of its tildes
on. What is left of it then holds none. -/
theorem scan_longS (h : Written ps ms longS) (start : Nat) (rest : Text) :
    ∃ ls next v, Strays ls ∧ .scalar '~' ∉ v
      ∧ next + v.length
        = start + ('~' :: (ps ++ (ms ++ [longS])) : Text).length
      ∧ scan start (.scalar '~' :: (ps ++ (ms ++ [longS])) ++ rest)
        = ls ++ scan next (v ++ rest) := by
  induction hlength : ps.length using Nat.strongRecOn
    generalizing ps start with
  | ind n ih =>
      obtain ⟨d, w, hw, hd⟩ := exists_cons_longS h
      have hwhole : ps ++ (ms ++ longS :: rest) = d :: (w ++ rest) := by
        rw [← List.cons_append, ← hw]
        simp
      have hfit := fit?_stray h (by decide) (by decide) hwhole hd
      have hscan : scan start (.scalar '~' :: d :: w ++ rest)
          = ofParts start [(.error, ['~', d])]
            ++ scan (start + 2) (w ++ rest) := scan_of_fit hfit
      rw [hw, hscan]
      by_cases htilde : .scalar '~' ∈ w
      · obtain ⟨pre, post, rfl, hpre⟩ := List.eq_append_cons_of_mem htilde
        obtain ⟨more, hmore, rfl, rfl⟩ := written_of_tilde_longS h hw
        have hfresh :
            Fresh (.scalar '~' :: (more ++ (ms ++ [longS])) ++ rest) :=
          fresh_tilde _
        have hshorter : more.length < n := by
          rw [← hlength, List.length_cons, List.length_append,
            List.length_cons]
          omega
        obtain ⟨ls, next, v, hls, hv, hnext, hrest⟩ :=
          ih more.length hshorter hmore (start + 2 + pre.length) rfl
        refine ⟨ofParts start [(.error, ['~', d]), (.text, pre)] ++ ls,
          next, v, hls.behind start pre, hv, ?_, ?_⟩
        · simp only [List.length_cons, List.length_append] at hnext ⊢
          omega
        · rw [List.append_assoc pre, scan_text hpre hfresh, hrest,
            List.append_assoc, ← List.append_assoc]
          rfl
      · exact ⟨_, start + 2, w, strays_singleton start d, htilde,
          by simp; omega, rfl⟩

end Lexeme

open Lexeme

-- ============================================================ directives

/-- The spaces and tabs behind a directive. -/
def DirectiveSource.blanks (d : DirectiveSource) : Text :=
  d.behind.takeWhile (oneOf " \t")

/-- The tokens of a directive, and where scanning goes on behind them. -/
inductive DirectiveSource.Shown (d : DirectiveSource) :
    List Lexeme → Nat → Text → Prop
  | classed {kind : TokenClass}
      (hclass : directiveClass? d.char = some kind) :
      d.Shown
        (ofParts d.offset (directiveParts d.params d.modifiers d.char kind))
        d.stop d.behind
  | joined (hchar : d.char = '\n') (hbare : d.params = []) :
      d.Shown (ofParts d.offset (joinParts d.modifiers d.behind))
        (d.stop + d.blanks.length) (d.behind.dropWhile (oneOf " \t"))
  | stray {ls : List Lexeme} {o : Nat} {v : Text} (hchar : d.char = longS)
      (hls : Strays ls) (hv : .scalar '~' ∉ v)
      (hstop : o + v.length = d.stop) :
      d.Shown ls o (v ++ d.behind)

/-- A directive is scanned into its tokens. -/
theorem DirectiveSource.Regular.shown {d : DirectiveSource}
    (h : d.Regular) : ∃ ls o t, d.Shown ls o t
      ∧ scan d.offset (d.text ++ d.behind) = ls ++ scan o t := by
  have hwritten := h.toWritten
  have hshape : d.text ++ d.behind
      = .scalar '~' :: (d.params ++ (d.modifiers ++ d.char :: d.behind)) := by
    simp [DirectiveSource.text]
  rcases class_cases h.char with hbreak | hlong | ⟨hother, kind, hclass⟩
  · have hbare := h.bare hbreak
    refine ⟨_, _, _, .joined hbreak hbare, ?_⟩
    rw [hbreak, hbare] at hwritten
    rw [hshape, hbreak, hbare, List.nil_append,
      scan_of_fit (fit?_join hwritten)]
    congr 2
    simp [joinParts, DirectiveSource.stop, DirectiveSource.text,
      DirectiveSource.blanks, hbare]
    omega
  · rw [hlong] at hwritten
    obtain ⟨ls, next, v, hls, hv, hnext, hscan⟩ :=
      scan_longS hwritten d.offset d.behind
    rw [← hlong] at hnext hscan
    exact ⟨ls, next, _, .stray hlong hls hv hnext, hscan⟩
  · refine ⟨_, _, _, .classed hclass, ?_⟩
    rw [hshape, scan_of_fit (fit?_directive hwritten hother hclass)]
    rfl

/-- Behind the tokens of a directive the others are where they are to
be. -/
theorem DirectiveSource.Shown.marked {d : DirectiveSource}
    {ls : List Lexeme} {o : Nat} {t : Text} {ds : List DirectiveSource}
    (h : d.Shown ls o t) (hrest : Marked d.stop d.behind ds) :
    Marked o t ds := by
  cases h with
  | classed => exact hrest
  | joined =>
      rw [← List.takeWhile_append_dropWhile (p := oneOf " \t")
        (l := d.behind)] at hrest
      refine hrest.behind ?_
      intro hmem
      have hblank := List.mem_takeWhile_imp hmem
      exact absurd hblank (by decide)
  | stray _ _ hv hstop => exact .front hv (hstop ▸ hrest)

-- ============================================================= templates

/-- The tokens of a text from an offset on: those of its directives, and
text between them. -/
inductive Shown : Nat → Text → List DirectiveSource → List Lexeme → Prop
  | last {o : Nat} {t : Text} (htilde : .scalar '~' ∉ t) :
      Shown o t [] (ofParts o [(.text, t)])
  | directive {o o' : Nat} {run t : Text} {d : DirectiveSource}
      {ds : List DirectiveSource} {ls rest : List Lexeme}
      (hoffset : d.offset = o + run.length) (hd : d.Shown ls o' t)
      (hrest : Shown o' t ds rest) :
      Shown o (run ++ (d.text ++ d.behind)) (d :: ds)
        (ofParts o [(.text, run)] ++ (ls ++ rest))

/-- Where the tildes are accounted for, a text is scanned directive by
directive. -/
theorem shown_of_marked {o : Nat} {t : Text} {ds : List DirectiveSource}
    (h : Marked o t ds) : Shown o t ds (scan o t) := by
  induction ds generalizing o t with
  | nil =>
      cases h with
      | last htilde =>
          have hscan := @scan_text o t [] htilde fresh_nil
          rw [List.append_nil, scan, List.append_nil] at hscan
          rw [hscan]
          exact .last htilde
  | cons d ds ih =>
      cases h with
      | @directive _ run _ _ htilde hoffset hregular hrest =>
          obtain ⟨ls, o', t, hd, hscan⟩ := hregular.shown
          have hfresh : Fresh (d.text ++ d.behind) := fresh_tilde _
          rw [scan_text htilde hfresh, ← hoffset, hscan]
          exact .directive hoffset hd (ih (hd.marked hrest))

end TildeFormat
