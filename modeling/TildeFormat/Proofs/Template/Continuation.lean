/-
Joined lines leave no trace. A template can be broken anywhere outside of
its directives: a tilde, a line break and any white space are put in, and
the template is read as the same tree, with what is behind the seam moved.
Only white space must not come next, for the joined line would take it
along.

A template is cut at a seam by cutting its spelling: `Spelling.cut`. A
directive is on one side of the seam, since the seam is not inside of it,
and so is a joined line, since white space does not come next. Literal
text may be on both sides; it is two pieces then, but a nest takes them in
like one. The new line goes between the two sides, and as it has no
modifiers it leaves no piece there.
-/
import TildeFormat.Proofs.Template.Bounds

namespace TildeFormat

variable {registry : Registry} {settings : Settings} {o : Nat}
  {a b t w ws rest : Text} {ps : List Piece}

-- ===================================================== where directives are

/-- Where a directive is written: from the offset of its tilde to the one
behind its character. -/
structure Span where
  start : Nat
  stop : Nat
deriving DecidableEq

/-- The offset is inside of a directive, with a part of it on either
side. -/
def Span.Straddles (span : Span) (o : Nat) : Prop :=
  span.start < o ∧ o < span.stop

instance (span : Span) (o : Nat) : Decidable (span.Straddles o) :=
  inferInstanceAs (Decidable (_ ∧ _))

/-- Where the directives are that are read from a place on. -/
def directiveSpans (registry : Registry) (p : Place) : List Span :=
  match _hp : p.ahead with
  | [] => []
  | c :: t =>
    if c = '~' then
      match scanDirective p.offset ⟨p.offset + 1, t⟩,
        _h : readDirective registry p.offset ⟨p.offset + 1, t⟩ with
      | .ok (_, after), .ok (_, q) =>
        ⟨p.offset, after.offset⟩ :: directiveSpans registry q
      | _, _ => []
    else
      directiveSpans registry (Place.pass ⟨p.offset + 1, t⟩ (· != '~'))
termination_by p.ahead.length
decreasing_by
  · have := (length_lt_of_readDirective _h).2
    rw [_hp]
    simp only [List.length_cons] at this ⊢
    omega
  · have := (Place.reaches_pass ⟨p.offset + 1, t⟩ (· != '~')).length_le
    rw [_hp]
    simp only [List.length_cons] at this ⊢
    omega

theorem directiveSpans_tilde {token : Token} {after q : Place}
    {piece? : Option Piece}
    (hscan : scanDirective o ⟨o + 1, t⟩ = .ok (token, after))
    (hread : readDirective registry o ⟨o + 1, t⟩ = .ok (piece?, q)) :
    directiveSpans registry ⟨o, '~' :: t⟩
      = ⟨o, after.offset⟩ :: directiveSpans registry q := by
  rw [directiveSpans]
  simp only [if_true]
  split
  · next hscan' hread' =>
    cases hscan.symm.trans hscan'
    cases hread.symm.trans hread'
    rfl
  · next hnone => exact absurd hread (hnone _ _ _ _ hscan)

/-- There are none in literal text. -/
theorem directiveSpans_text (ht : t ≠ []) (htilde : .scalar '~' ∉ t)
    (hfresh : Fresh rest) :
    directiveSpans registry ⟨o, t ++ rest⟩
      = directiveSpans registry ⟨o + t.length, rest⟩ := by
  cases t with
  | nil => exact absurd rfl ht
  | cons c t =>
      have hc : c ≠ '~' := (List.ne_of_not_mem_cons htilde).symm
      rw [List.cons_append, directiveSpans]
      simp only [hc, if_false, pass_text htilde hfresh]

/-- A directive that leaves a piece is all of what it is spelled by. -/
theorem directiveSpans_directive {piece : Piece}
    (hpiece : piece.Spelling o w)
    (hallowed : piece.Allowed (.builtin settings)) (rest : Text) :
    directiveSpans (.builtin settings) ⟨o, w ++ rest⟩
      = ⟨o, o + w.length⟩
        :: directiveSpans (.builtin settings) ⟨o + w.length, rest⟩ := by
  obtain ⟨w, rfl⟩ := hpiece.eq_tilde_cons
  have hread := readDirective_of_spelling hpiece hallowed rest
  obtain ⟨letter, clause, c, hdirective, hc, hw⟩ := hpiece
  obtain ⟨-, spec, hspec, -⟩ := hallowed letter clause hdirective
  have hget := get?_of_upperChar hc (letter_of_directive hdirective)
    (.builtin settings)
  rw [hspec] at hget
  have hscan := scanDirective_of_spelling hw
    (not_mem_continuers_of_get? hget) rest
  exact directiveSpans_tilde hscan hread

/-- The directive of a joined line ends with the line break. -/
theorem directiveSpans_join {modifiers : Modifiers} {ms blanks : Text}
    (hms : ms.Perm modifiers.text)
    (hjoin : JoinSpelling modifiers
      ('~' :: (ms ++ .scalar '\n' :: blanks)) rest) :
    directiveSpans (.builtin settings)
        ⟨o, .scalar '~' :: (ms ++ .scalar '\n' :: blanks) ++ rest⟩
      = ⟨o, o + ('~' :: (ms ++ [.scalar '\n']) : Text).length⟩
        :: directiveSpans (.builtin settings)
          ⟨o + ('~' :: (ms ++ .scalar '\n' :: blanks) : Text).length,
            rest⟩ := by
  obtain ⟨piece?, hread, -⟩ :=
    @readDirective_of_joinSpelling settings o _ _ _ hjoin
  have hscan := scanDirective_of_join (o := o) hms (blanks ++ rest)
  have hshape : ms ++ .scalar '\n' :: blanks ++ rest
      = ms ++ .scalar '\n' :: (blanks ++ rest) := by simp
  rw [hshape] at hread
  rw [List.cons_append, hshape]
  exact directiveSpans_tilde hscan hread

-- ================================================================ the cut

/-- Two parts of a text against a first piece of it: the first part goes
on to the end of the piece at least, or it is empty, or the piece is in
both. -/
theorem seam_cases (h : w ++ rest = a ++ b) :
    (∃ a', a = w ++ a' ∧ rest = a' ++ b) ∨ a = []
      ∨ ∃ v, w = a ++ v ∧ b = v ++ rest ∧ a ≠ [] ∧ v ≠ [] := by
  rcases List.append_eq_append_iff.mp h with
    ⟨a', rfl, rfl⟩ | ⟨v, rfl, rfl⟩
  · exact .inl ⟨a', rfl, rfl⟩
  · by_cases ha : a = []
    · exact .inr (.inl ha)
    · by_cases hv : v = []
      · subst hv
        exact .inl ⟨[], by simp, by simp⟩
      · exact .inr (.inr ⟨v, rfl, rfl, ha, hv⟩)

/-- A text in two parts, each of which is spelled by itself, and a nest
that takes in the pieces of both as it does those of the whole. -/
def Cut (registry : Registry) (o : Nat) (a b : Text) (ps : List Piece) :
    Prop :=
  ∃ qs rs, Spelling registry o a qs
    ∧ Spelling registry (o + a.length) b rs
    ∧ ∀ nest : Nest, nest.steps ps = nest.steps (qs ++ rs)

theorem Cut.front (h : Spelling registry o b ps) :
    Cut registry o [] b ps := ⟨[], ps, .nil, h, fun _ => rfl⟩

/-- A part in front of what is cut. -/
theorem Cut.behind (before : List Piece)
    (h : Cut registry (o + w.length) a b ps)
    (hfirst : ∀ qs, Spelling registry (o + w.length) a qs →
      Spelling registry o (w ++ a) (before ++ qs)) :
    Cut registry o (w ++ a) b (before ++ ps) := by
  obtain ⟨qs, rs, hqs, hrs, hsteps⟩ := h
  refine ⟨before ++ qs, rs, hfirst qs hqs, ?_, ?_⟩
  · rwa [List.length_append, ← Nat.add_assoc]
  · intro nest
    rw [List.append_assoc]
    exact Nest.steps_append_congr hsteps nest before

/-- White space does not come next, so a seam inside of a joined line is
inside of its directive. -/
theorem straddles_of_join {ms blanks v : Text}
    (hblanks : ∀ c ∈ blanks, isIndentation c = true)
    (hw : .scalar '~' :: (ms ++ .scalar '\n' :: blanks) = a ++ v) (ha : a ≠ [])
    (hv : v ≠ []) (hb : Stops isIndentation (v ++ rest)) :
    Span.Straddles ⟨o, o + ('~' :: (ms ++ [.scalar '\n']) : Text).length⟩
      (o + a.length) := by
  have hshape : .scalar '~' :: (ms ++ .scalar '\n' :: blanks)
      = .scalar '~' :: (ms ++ [.scalar '\n']) ++ blanks := by simp
  rw [hshape] at hw
  -- what is left of white space would be white space that comes next
  have hleft (front : Text) : blanks ≠ front ++ v := by
    intro hblank
    obtain ⟨c, v, rfl⟩ := List.exists_cons_of_ne_nil hv
    have hc : isIndentation c = true := by
      apply hblanks
      rw [hblank]
      exact List.mem_append_right _ List.mem_cons_self
    rw [hb c rfl] at hc
    cases hc
  refine ⟨Nat.lt_add_of_pos_right (List.length_pos_iff.mpr ha),
    Nat.add_lt_add_left ?_ _⟩
  rcases List.append_eq_append_iff.mp hw with
    ⟨front, -, hblank⟩ | ⟨behind, hdirective, hblank⟩
  · exact absurd hblank (hleft front)
  · have hbehind : behind ≠ [] := by
      intro hnone
      rw [hnone] at hblank
      exact hleft [] hblank.symm
    rw [hdirective, List.length_append]
    exact Nat.lt_add_of_pos_right (List.length_pos_iff.mpr hbehind)

/-- A spelled text can be cut at a seam that is not inside of a directive,
if white space does not come next. -/
theorem Spelling.cut (h : Spelling (.builtin settings) o t ps)
    (ht : t = a ++ b)
    (hseam : ∀ span ∈ directiveSpans (.builtin settings) ⟨o, t⟩,
      ¬span.Straddles (o + a.length))
    (hb : Stops isIndentation b) :
    Cut (.builtin settings) o a b ps := by
  induction h generalizing a with
  | nil =>
      obtain ⟨rfl, rfl⟩ := List.append_eq_nil_iff.mp ht.symm
      exact .front .nil
  | @text o w rest ps hw htilde hfresh hrest ih =>
      rw [directiveSpans_text hw htilde hfresh] at hseam
      rcases seam_cases ht with
        ⟨a, rfl, rfl⟩ | rfl | ⟨v, rfl, rfl, ha, hv⟩
      · rw [List.length_append, ← Nat.add_assoc] at hseam
        apply Cut.behind [.text w o] (ih rfl hseam)
        intro qs hqs
        exact .text hw htilde hfresh.of_append hqs
      · cases ht
        exact .front (.text hw htilde hfresh hrest)
      · -- text on both sides is two pieces of text
        have hfirst : Spelling (.builtin settings) o (a ++ [])
            [.text a o] :=
          .text ha (fun h => htilde (List.mem_append_left _ h)) fresh_nil
            .nil
        rw [List.append_nil] at hfirst
        rw [List.length_append, ← Nat.add_assoc] at hrest
        refine ⟨_, _, hfirst, .text hv
          (fun h => htilde (List.mem_append_right _ h)) hfresh hrest, ?_⟩
        intro nest
        show (nest.addText (a ++ v) o).steps ps = _
        rw [← Nest.addText_addText nest a v o (o + a.length)]
        rfl
  | @directive o w rest piece ps hpiece hallowed hrest ih =>
      rw [directiveSpans_directive hpiece hallowed] at hseam
      obtain ⟨hspan, hseam⟩ := List.forall_mem_cons.mp hseam
      rcases seam_cases ht with
        ⟨a, rfl, rfl⟩ | rfl | ⟨v, rfl, rfl, ha, hv⟩
      · rw [List.length_append, ← Nat.add_assoc] at hseam
        apply Cut.behind [piece] (ih rfl hseam)
        intro qs hqs
        exact .directive hpiece hallowed hqs
      · cases ht
        exact .front (.directive hpiece hallowed hrest)
      · have hfrom := List.length_pos_iff.mpr ha
        have hto := List.length_pos_iff.mpr hv
        refine absurd ⟨Nat.lt_add_of_pos_right hfrom,
          Nat.add_lt_add_left ?_ _⟩ hspan
        rw [List.length_append]
        exact Nat.lt_add_of_pos_right hto
  | @join o modifiers w rest ps hjoin hrest ih =>
      have hjoin' := hjoin
      cases hjoin with
      | @mk ms blanks _ hms hblanks hcolon hstops =>
        rw [directiveSpans_join hms hjoin'] at hseam
        obtain ⟨hspan, hseam⟩ := List.forall_mem_cons.mp hseam
        rcases seam_cases ht with
          ⟨a, rfl, rfl⟩ | rfl | ⟨v, hw, rfl, ha, hv⟩
        · rw [List.length_append, ← Nat.add_assoc] at hseam
          apply Cut.behind _ (ih rfl hseam)
          intro qs hqs
          exact .join (hjoin'.congr fun hnone =>
            (hjoin'.stops hnone).of_append) hqs
        · cases ht
          exact .front (.join hjoin' hrest)
        · exact absurd (straddles_of_join hblanks hw ha hv hb) hspan

-- ============================================================= templates

/-- A place in a template, once so many characters have been put in at an
offset. -/
def shifted (seam count place : Nat) : Nat :=
  if place < seam then place else place + count

theorem shifted_of_lt {seam count place : Nat} (h : place < seam) :
    shifted seam count place = place := if_pos h

theorem shifted_of_le {seam count place : Nat} (h : seam ≤ place) :
    shifted seam count place = place + count := if_neg (Nat.not_lt.mpr h)

/-- The pieces in front of the seam stay where they are. -/
theorem Spelling.shifted_front {seam : Nat}
    (h : Spelling (.builtin settings) o t ps) (count : Nat)
    (hseam : o + t.length ≤ seam) :
    ps.map (Piece.moved (shifted seam count)) = ps := by
  conv => rhs; rw [← List.map_id ps]
  apply List.map_congr_left
  intro piece hpiece
  refine (Piece.moved_congr ?_).trans piece.moved_id
  intro place hplace
  have hto := (h.places_within hpiece hplace).2
  exact shifted_of_lt (Nat.lt_of_lt_of_le hto hseam)

/-- All pieces behind the seam are moved by the same. -/
theorem Spelling.shifted_behind {seam : Nat}
    (h : Spelling (.builtin settings) o t ps) (count : Nat)
    (hseam : seam ≤ o) :
    ps.map (Piece.moved (shifted seam count))
      = ps.map (Piece.moved (· + count)) := by
  apply List.map_congr_left
  intro piece hpiece
  apply Piece.moved_congr
  intro place hplace
  have hfrom := (h.places_within hpiece hplace).1
  exact shifted_of_le (Nat.le_trans hseam hfrom)

/-- A joined line can be put into a template wherever there is no
directive and no white space comes next: the template is still read, and
as the same tree, with the places behind the new line moved. -/
theorem parse_continued {tree : List Node}
    (h : parse (.builtin settings) (a ++ b) = .ok tree)
    (hseam : ∀ span ∈ directiveSpans (.builtin settings)
      (Place.start (a ++ b)), ¬span.Straddles a.length)
    (hb : Stops isIndentation b)
    (hws : ∀ c ∈ ws, isIndentation c = true) :
    let whole := moved (shifted a.length (2 + ws.length)) tree
    parse (.builtin settings)
        (a ++ (.scalar '~' :: .scalar '\n' :: ws ++ b)) = .ok whole
      ∧ bare whole = bare tree := by
  refine ⟨?_, bare_moved _ tree⟩
  obtain ⟨ps, nest, hread, hsteps, hfinish⟩ := readPieces_of_parse h
  cases Nest.finish_eq_ok_iff.mp hfinish
  rw [← Nat.zero_add a.length] at hseam
  obtain ⟨qs, rs, hqs, hrs, hcut⟩ :=
    (readPieces_eq_iff.mp hread).cut rfl hseam hb
  -- the second side behind the new line
  let count := ('~' :: '\n' :: ws : Text).length
  have hjoin : JoinSpelling {} ('~' :: '\n' :: ws) b :=
    .mk (.refl _) hws nofun fun _ => hb
  have hline : Spelling (.builtin settings) (0 + a.length)
      (.scalar '~' :: .scalar '\n' :: ws ++ b)
      (rs.map (Piece.moved (· + count))) :=
    .join hjoin (hrs.shift count)
  have hjoined : Seam (.builtin settings) 0 a
      (.scalar '~' :: .scalar '\n' :: ws ++ b) :=
    fun _ => stops_cons (by decide) _
  obtain ⟨all, hall, hsame⟩ := hqs.append hline hjoined
  have hfirst : qs.map (Piece.moved (shifted a.length count)) = qs :=
    hqs.shifted_front count (Nat.le_of_eq (Nat.zero_add _))
  have hsecond : rs.map (Piece.moved (shifted a.length count))
      = rs.map (Piece.moved (· + count)) :=
    hrs.shifted_behind count (Nat.le_add_left _ _)
  have hmoved := Nest.steps_moved (shifted a.length count)
    ((hcut .empty).symm.trans hsteps)
  rw [List.map_append, hfirst, hsecond, ← hsame] at hmoved
  have hwhole : Nest.empty.steps all
      = .ok ⟨moved (shifted a.length count) tree.reverse, []⟩ := hmoved
  have hcount : count = 2 + ws.length := by
    simp only [count, List.length_cons]
    omega
  rw [parse_of_readPieces (readPieces_of_spelling hall), hwhole, ← hcount]
  apply Nest.finish_eq_ok_iff.mpr
  rw [moved_reverse]

/-- The start of a loop over items, with a joined line, and its end. -/
def loopFront : Text := word "~\x7b~\n  it"

def loopBack : Text := word "em ~A~^, ~\x7d"

/-- A seam in the middle of a word, in the body of the loop. -/
theorem parse_continued_loopFront :
    ∃ tree whole,
      parse .standard (loopFront ++ loopBack) = .ok tree
        ∧ parse .standard
            (loopFront ++ (.scalar '~' :: .scalar '\n'
              :: [.scalar ' ', .scalar '\t']
              ++ loopBack))
          = .ok whole
        ∧ bare whole = bare tree := by
  have hspans : directiveSpans (.builtin .standard)
      (Place.start (loopFront ++ loopBack))
      = [⟨0, 2⟩, ⟨2, 4⟩, ⟨11, 13⟩, ⟨13, 15⟩, ⟨17, 19⟩] := by
    with_unfolding_all rfl
  have hparse : parse .standard (loopFront ++ loopBack)
      = .ok [.iteration [.literal (word "item ") 6,
        .simple .human { position := 11 },
        .escape 1 { position := 13 }, .literal (word ", ") 15]
        false {}] := by
    with_unfolding_all rfl
  have hseam : ∀ span ∈ directiveSpans (.builtin .standard)
      (Place.start (loopFront ++ loopBack)),
      ¬span.Straddles loopFront.length := by
    rw [hspans]
    decide
  have hblank : ∀ c ∈ ([' ', '\t'] : Text), isIndentation c = true :=
    List.all_eq_true.mp rfl
  exact ⟨_, _, hparse,
    parse_continued hparse hseam (stops_cons (by decide) _) hblank⟩

end TildeFormat
