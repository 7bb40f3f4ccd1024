/-
The directives of a template as they are written: for each of them the
text of its parameters and modifiers, its character, and what reading
skips behind it. They are listed by running the readers once more over
the places they come to (`directiveSources`).

Of a template that is read to its end the list says where every tilde is.
In front of a directive there is none, and whatever there is inside of one
is accounted for by how a directive is spelled (`Marked`). White space that
a joined line skips holds no tilde, so it makes no difference to the list
where behind a directive reading goes on: tilde-free text can be put in
front of what is listed, and taken off again.
-/
import TildeFormat.Proofs.Template.Reading.Pieces
import TildeFormat.Proofs.Template.Nesting

namespace TildeFormat

variable {registry : Registry} {settings : Settings} {o : Nat}
  {t v w rest : Text} {p q : Place}

-- ============================================================= directives

/-- The text between a place and one further on. -/
def Place.textTo (p q : Place) : Text := p.ahead.take (q.offset - p.offset)

theorem Place.Over.textTo (h : p.Over w q) : p.textTo q = w := by
  rw [Place.textTo, h.1, h.2, Nat.add_sub_cancel_left, List.take_left]

/-- A directive as it is written: how many characters are before its
tilde, its parameters, its modifiers and its character, the text behind
it, and what of this text reading skips. -/
structure DirectiveSource where
  offset : Nat
  params : Text
  modifiers : Text
  char : Character
  behind : Text
  skipped : Text
deriving DecidableEq

namespace DirectiveSource

/-- The directive itself, from its tilde to its character. -/
def text (d : DirectiveSource) : Text :=
  '~' :: (d.params ++ (d.modifiers ++ [d.char]))

/-- How many characters are before the text behind it. -/
def stop (d : DirectiveSource) : Nat := d.offset + d.text.length

end DirectiveSource

/-- The directive whose tilde stands at `start`, read from the place
after the tilde; `next` is where reading goes on. -/
def scanSource (start : Nat) (p next : Place) : Option DirectiveSource :=
  match scanParams false p with
  | .error _ => none
  | .ok (_, q) =>
    match scanModifiers {} q.offset q.ahead with
    | .error _ => none
    | .ok (_, r) =>
      match r.ahead with
      | [] => none
      | c :: rest =>
        some ⟨start, p.textTo q, q.textTo r, c, rest,
          Place.textTo ⟨r.offset + 1, rest⟩ next⟩

/-- The directives that are read from a place on, as they are written. -/
def directiveSources (registry : Registry) (p : Place) :
    List DirectiveSource :=
  match _hp : p.ahead with
  | [] => []
  | c :: t =>
    if c = '~' then
      match _h : readDirective registry p.offset ⟨p.offset + 1, t⟩ with
      | .error _ => []
      | .ok (_, q) =>
        (scanSource p.offset ⟨p.offset + 1, t⟩ q).toList
          ++ directiveSources registry q
    else
      directiveSources registry (Place.pass ⟨p.offset + 1, t⟩ (· != '~'))
termination_by p.ahead.length
decreasing_by
  · have := (length_lt_of_readDirective _h).2
    rw [_hp]
    simp only [List.length_cons] at this ⊢
    omega
  · have := (Place.reaches_pass ⟨p.offset + 1, t⟩ (· != '~')).length_le
    rw [_hp]
    simp only [List.length_cons] at this ⊢
    omega

theorem directiveSources_tilde {piece? : Option Piece}
    (h : readDirective registry o ⟨o + 1, t⟩ = .ok (piece?, q)) :
    directiveSources registry ⟨o, '~' :: t⟩
      = (scanSource o ⟨o + 1, t⟩ q).toList
        ++ directiveSources registry q := by
  rw [directiveSources]
  simp only [if_true]
  split
  · next he => cases h.symm.trans he
  · next he =>
    cases h.symm.trans he
    rfl

/-- There are none in literal text. -/
theorem directiveSources_text (ht : t ≠ []) (htilde : .scalar '~' ∉ t)
    (hfresh : Fresh rest) :
    directiveSources registry ⟨o, t ++ rest⟩
      = directiveSources registry ⟨o + t.length, rest⟩ := by
  cases t with
  | nil => exact absurd rfl ht
  | cons c t =>
      have hc : c ≠ '~' := (List.ne_of_not_mem_cons htilde).symm
      rw [List.cons_append, directiveSources]
      simp only [hc, if_false, pass_text htilde hfresh]

/-- What is spelled is what is listed. -/
theorem scanSource_of_spelling {params : List Param}
    {modifiers : Modifiers} {ps ms : Text} {c : Character}
    (hps : ParamsSpelling (o + 1) params ps)
    (hms : ms.Perm modifiers.text) (hc : c ∉ continuers) (rest : Text)
    (next : Place) :
    scanSource o ⟨o + 1, ps ++ (ms ++ c :: rest)⟩ next
      = some ⟨o, ps, ms, c, rest, Place.textTo
          ⟨o + ('~' :: (ps ++ (ms ++ [c])) : Text).length, rest⟩ next⟩ := by
  have hparams := scanParams_of_spelling hps
    (endsParams_modifiers (t := rest) hms hc)
  have hmods := scanModifiers_of_spelling (o := o + 1 + ps.length) hms
    (endsModifiers_of_not_continuers (t := rest) hc)
  have hover : Place.Over ⟨o + 1, ps ++ (ms ++ c :: rest)⟩ ps
      ⟨o + 1 + ps.length, ms ++ c :: rest⟩ := ⟨rfl, rfl⟩
  have hover' : Place.Over ⟨o + 1 + ps.length, ms ++ c :: rest⟩ ms
      ⟨o + 1 + ps.length + ms.length, c :: rest⟩ := ⟨rfl, rfl⟩
  have hstop : o + 1 + ps.length + ms.length + 1
      = o + ('~' :: (ps ++ (ms ++ [c])) : Text).length := by
    simp only [List.length_cons, List.length_append, List.length_nil]
    omega
  rw [scanSource, hparams]
  simp only [hmods, hover.textTo, hover'.textTo, hstop]

-- ========================================================= well-formedness

/-- Parameters, modifiers and the character of a built-in directive. -/
structure Written (ps ms : Text) (c : Character) : Prop where
  params : ∃ o params, ParamsSpelling o params ps
  modifiers : ∀ d ∈ ms, d ∈ ([':', '@'] : Text)
  char : c ∈ directiveChars

/-- A directive of the built-in set. A joined line has no parameters. Only
white space behind its line break is skipped, and none if a colon is among
the modifiers. -/
structure DirectiveSource.Regular (d : DirectiveSource) : Prop
    extends Written d.params d.modifiers d.char where
  bare : d.char = '\n' → d.params = []
  skips : d.skipped = if d.char = '\n' ∧ .scalar ':' ∉ d.modifiers
    then d.behind.takeWhile isIndentation else []

/-- The directives of a text from an offset on, and no tilde but in
them. -/
inductive Marked : Nat → Text → List DirectiveSource → Prop
  | last {o : Nat} {t : Text} (htilde : .scalar '~' ∉ t) : Marked o t []
  | directive {o : Nat} {run : Text} {d : DirectiveSource}
      {ds : List DirectiveSource} (htilde : .scalar '~' ∉ run)
      (hoffset : d.offset = o + run.length) (hregular : d.Regular)
      (hrest : Marked d.stop d.behind ds) :
      Marked o (run ++ (d.text ++ d.behind)) (d :: ds)

namespace Marked

variable {d : DirectiveSource} {ds : List DirectiveSource}

/-- At its tilde a directive begins at once. -/
theorem at_tilde (hregular : d.Regular) (hrest : Marked d.stop d.behind ds) :
    Marked d.offset (d.text ++ d.behind) (d :: ds) :=
  .directive (List.not_mem_nil) rfl hregular hrest

/-- Text without a tilde is put in front. -/
theorem front (hv : .scalar '~' ∉ v) (h : Marked (o + v.length) t ds) :
    Marked o (v ++ t) ds := by
  generalize hstart : o + v.length = start at h
  cases h with
  | last htilde =>
      exact .last fun hmem => (List.mem_append.mp hmem).elim hv htilde
  | directive htilde hoffset hregular hrest =>
      rw [← List.append_assoc]
      refine .directive ?_ ?_ hregular hrest
      · exact fun hmem => (List.mem_append.mp hmem).elim hv htilde
      · rw [hoffset, ← hstart, List.length_append, Nat.add_assoc]

/-- Text without a tilde is taken off the front. -/
theorem behind (hv : .scalar '~' ∉ v) (h : Marked o (v ++ t) ds) :
    Marked (o + v.length) t ds := by
  generalize hwhole : v ++ t = whole at h
  cases h with
  | last htilde =>
      rw [← hwhole] at htilde
      exact .last fun hmem => htilde (List.mem_append_right v hmem)
  | @directive _ run d ds htilde hoffset hregular hrest =>
      rcases List.append_eq_append_iff.mp hwhole with
        ⟨left, rfl, rfl⟩ | ⟨left, rfl, hleft⟩
      · refine .directive ?_ ?_ hregular hrest
        · exact fun hmem => htilde (List.mem_append_right v hmem)
        · rw [hoffset, List.length_append, Nat.add_assoc]
      · cases left with
        | nil =>
            rw [List.append_nil, ← hoffset]
            rw [List.nil_append] at hleft
            exact hleft ▸ at_tilde hregular hrest
        | cons c left =>
            -- the directive's tilde would be in the text taken off
            obtain ⟨rfl, -⟩ := List.cons.inj hleft
            exact absurd (List.mem_append_right run List.mem_cons_self) hv

theorem regular (h : Marked o t ds) : ∀ d ∈ ds, d.Regular := by
  induction h with
  | last => exact List.forall_mem_nil _
  | directive _ _ hregular _ ih =>
      exact List.forall_mem_cons.mpr ⟨hregular, ih⟩

end Marked

-- =============================================================== templates

/-- What is skipped holds no tilde. -/
theorem DirectiveSource.Regular.tilde_not_mem_skipped
    {d : DirectiveSource} (h : d.Regular) : .scalar '~' ∉ d.skipped := by
  intro hmem
  rw [h.skips] at hmem
  split at hmem
  · have hblank := List.mem_takeWhile_imp hmem
    exact absurd hblank (by decide)
  · cases hmem

/-- A text in front of a rest is a directive and what reading skips behind
it. -/
structure DirectiveSource.Heads (d : DirectiveSource) (o : Nat)
    (w rest : Text) : Prop where
  regular : d.Regular
  offset : d.offset = o
  text : d.text ++ d.skipped = w
  behind : d.skipped ++ rest = d.behind

theorem DirectiveSource.Heads.marked {d : DirectiveSource}
    {ds : List DirectiveSource} (h : d.Heads o w rest)
    (hrest : Marked (o + w.length) rest ds) :
    Marked o (w ++ rest) (d :: ds) := by
  have hplace : o + w.length = d.stop + d.skipped.length := by
    rw [← h.text, ← h.offset, List.length_append, ← Nat.add_assoc]
    rfl
  rw [hplace] at hrest
  have hbehind := hrest.front h.regular.tilde_not_mem_skipped
  rw [h.behind] at hbehind
  rw [← h.text, List.append_assoc, h.behind, ← h.offset]
  exact .at_tilde h.regular hbehind

/-- A line break is not the letter of a directive that leaves a piece. -/
theorem letter_ne_newline {piece : Piece} {letter : Character}
    {clause : Clause} (h : piece.directive? = some (letter, clause)) :
    letter ≠ '\n' := by
  cases piece with
  | text => cases h
  | simple kind => cases h; cases kind <;> decide
  | opener shape | closer shape => cases h; cases shape <;> decide
  | separator | escape => cases h; decide

/-- A directive that leaves a piece is listed, and nothing is skipped
behind it. -/
theorem directiveSources_directive {piece : Piece}
    (hpiece : piece.Spelling o w)
    (hallowed : piece.Allowed (.builtin settings)) (rest : Text) :
    ∃ d : DirectiveSource, d.Heads o w rest
      ∧ directiveSources (.builtin settings) ⟨o, w ++ rest⟩
        = d :: directiveSources (.builtin settings)
            ⟨o + w.length, rest⟩ := by
  obtain ⟨w, rfl⟩ := hpiece.eq_tilde_cons
  have hread := readDirective_of_spelling hpiece hallowed rest
  obtain ⟨letter, clause, c, hdirective, hupper, hw⟩ := hpiece
  have hletter := letter_of_directive hdirective
  have hc := mem_directiveChars hletter hupper
  have hbreak : c ≠ '\n' := by
    rintro rfl
    have hself := upperChar_of_builtinLetters '\n' (by decide)
    have hsame := List.singleton_inj.mp (hupper.symm.trans hself)
    exact letter_ne_newline hdirective hsame
  cases hw with
  | @mk params modifiers _ ps ms hps hms =>
      have hsource := scanSource_of_spelling hps hms
        (not_mem_continuers hc) rest
        ⟨o + ('~' :: (ps ++ (ms ++ [c])) : Text).length, rest⟩
      have hshape : ps ++ (ms ++ [c]) ++ rest = ps ++ (ms ++ c :: rest) := by
        simp
      rw [(Place.Over.nil _).textTo] at hsource
      rw [hshape] at hread
      have hwritten : Written ps ms c :=
        ⟨⟨_, _, hps⟩, fun d => mem_modifiers hms, hc⟩
      refine ⟨⟨o, ps, ms, c, rest, []⟩, ⟨⟨hwritten,
        fun h => absurd h hbreak, ?_⟩, rfl, List.append_nil _, rfl⟩, ?_⟩
      · exact (if_neg fun h => hbreak h.1).symm
      · rw [List.cons_append, hshape, directiveSources_tilde hread, hsource]
        rfl

/-- A colon is among spelled modifiers just when it is among the
modifiers. -/
theorem colon_mem_iff {m : Modifiers} {ms : Text} (hms : ms.Perm m.text) :
    .scalar ':' ∈ ms ↔ m.colon = true := by
  rw [hms.mem_iff]
  obtain ⟨colon, atSign⟩ := m
  cases colon <;> cases atSign <;> decide

/-- A joined line is listed, with the white space it skips. -/
theorem directiveSources_join {modifiers : Modifiers}
    (hjoin : JoinSpelling modifiers w rest) :
    ∃ d : DirectiveSource, d.Heads o w rest
      ∧ directiveSources (.builtin settings) ⟨o, w ++ rest⟩
        = d :: directiveSources (.builtin settings)
            ⟨o + w.length, rest⟩ := by
  obtain ⟨w, rfl⟩ := hjoin.eq_tilde_cons
  obtain ⟨piece?, hread, -⟩ :=
    @readDirective_of_joinSpelling settings o _ _ _ hjoin
  cases hjoin with
  | @mk ms blanks _ hms hblanks hcolon hstops =>
      have hsource := scanSource_of_spelling (.none (o := o + 1)) hms
        (by decide : .scalar '\n' ∉ continuers) (blanks ++ rest)
        ⟨o + ('~' :: (ms ++ .scalar '\n' :: blanks) : Text).length, rest⟩
      have hover : Place.Over
          ⟨o + ('~' :: ([] ++ (ms ++ [.scalar '\n'])) : Text).length,
            blanks ++ rest⟩
          blanks
          ⟨o + ('~' :: (ms ++ .scalar '\n' :: blanks) : Text).length,
            rest⟩ := by
        refine ⟨rfl, ?_⟩
        simp only [List.nil_append, List.length_cons, List.length_append,
          List.length_nil]
        omega
      have hskips : blanks
          = if .scalar '\n' = Character.scalar '\n' ∧ .scalar ':' ∉ ms
          then (blanks ++ rest).takeWhile isIndentation else [] := by
        cases hm : modifiers.colon with
        | true =>
            rw [if_neg fun h => h.2 ((colon_mem_iff hms).mpr hm)]
            exact hcolon hm
        | false =>
            have hnone : .scalar ':' ∉ ms := by
              rw [colon_mem_iff hms, hm]
              decide
            rw [if_pos ⟨rfl, hnone⟩,
              takeWhile_append_stops hblanks (hstops hm)]
      have hshape : ms ++ .scalar '\n' :: blanks ++ rest
          = ms ++ .scalar '\n' :: (blanks ++ rest) := by simp
      rw [hover.textTo, List.nil_append] at hsource
      rw [hshape] at hread
      have hwritten : Written [] ms '\n' :=
        ⟨⟨o + 1, _, .none⟩, fun d => mem_modifiers hms, by decide⟩
      refine ⟨⟨o, [], ms, '\n', blanks ++ rest, blanks⟩,
        ⟨⟨hwritten, fun _ => rfl, hskips⟩, rfl, ?_, rfl⟩, ?_⟩
      · simp [DirectiveSource.text]
      · rw [List.cons_append, hshape, directiveSources_tilde hread, hsource]
        rfl

/-- The directives of a spelled template are where its tildes are. -/
theorem marked_of_spelling {ps : List Piece}
    (h : Spelling (.builtin settings) o t ps) :
    Marked o t (directiveSources (.builtin settings) ⟨o, t⟩) := by
  induction h with
  | nil =>
      rw [directiveSources]
      exact .last List.not_mem_nil
  | text ht htilde hfresh _ ih =>
      rw [directiveSources_text ht htilde hfresh]
      exact ih.front htilde
  | directive hpiece hallowed _ ih =>
      obtain ⟨d, hd, hsources⟩ :=
        directiveSources_directive hpiece hallowed _
      rw [hsources]
      exact hd.marked ih
  | join hjoin _ ih =>
      obtain ⟨d, hd, hsources⟩ :=
        @directiveSources_join settings _ _ _ _ hjoin
      rw [hsources]
      exact hd.marked ih

/-- The directives of a template that is accepted are where its tildes
are. -/
theorem marked_of_parse {tree : List Node}
    (h : parse (.builtin settings) t = .ok tree) :
    Marked 0 t (directiveSources (.builtin settings) (.start t)) := by
  obtain ⟨ps, nest, hread, -, -⟩ := readPieces_of_parse h
  exact marked_of_spelling (readPieces_eq_iff.mp hread)

end TildeFormat
