/-
Reading directives and whole templates against their spellings. The
pieces of a template under the built-in directives are exactly those the
text is a spelling of: `readPieces_eq_iff`.

A directive is told from a joined line by its letter alone, and both
begin with a tilde, so the readers never have to look further ahead than
the character they are at.
-/
import TildeFormat.Proofs.Template.Reading.Params

namespace TildeFormat

variable {settings : Settings}

-- ========================================================== directives

/-- A character that cannot go on with a parameter list or modifiers
ends both. -/
theorem endsParams_of_not_continuers {c : Character} {t : Text}
    (h : c ∉ continuers) : EndsParams (c :: t) := by
  constructor <;> intro d hd <;> cases hd
  · cases hstarts : startsParam c with
    | false => rfl
    | true => exact absurd (startsParam_mem hstarts) h
  · show (c == ',') = false
    rw [beq_eq_false_iff_ne]
    rintro rfl
    exact h (by decide)

theorem endsModifiers_of_not_continuers {c : Character} {t : Text}
    (h : c ∉ continuers) : EndsModifiers (c :: t) := by
  intro d hd
  cases hd
  rw [Bool.or_eq_false_iff, beq_eq_false_iff_ne, beq_eq_false_iff_ne]
  constructor <;> (rintro rfl; exact h (by decide))

/-- Spelled modifiers are nothing but colons and at signs. -/
theorem mem_modifiers {m : Modifiers} {ms : Text}
    (hms : ms.Perm m.text) {c : Character} (hc : c ∈ ms) :
    c ∈ ([':', '@'] : Text) := by
  have hmem := hms.mem_iff.mp hc
  obtain ⟨colon, atSign⟩ := m
  cases colon <;> cases atSign <;> simp_all [Modifiers.text]

/-- Modifiers end a parameter list as well. -/
theorem endsParams_modifiers {m : Modifiers} {ms : Text} {c : Character}
    {t : Text} (hms : ms.Perm m.text) (h : c ∉ continuers) :
    EndsParams (ms ++ c :: t) := by
  cases ms with
  | nil => exact endsParams_of_not_continuers h
  | cons d ms =>
      have hall : ∀ d ∈ ([':', '@'] : Text),
          startsParam d = false ∧ (d == ',') = false :=
        List.all_iff_forall_prop.mp (by decide)
      have hboth := hall d (mem_modifiers hms (List.mem_cons_self ..))
      constructor <;> intro e he <;> cases he
      · exact hboth.1
      · exact hboth.2

/-- A spelled directive is read. -/
theorem scanDirective_of_spelling {o : Nat} {clause : Clause} {c : Character}
    {w : Text} (h : clause.Spelling o c ('~' :: w)) (hc : c ∉ continuers)
    (rest : Text) :
    scanDirective o ⟨o + 1, w ++ rest⟩
      = .ok (⟨c, clause⟩, ⟨o + ('~' :: w : Text).length, rest⟩) := by
  cases h with
  | @mk params modifiers _ ps ms hps hms =>
      have hends : EndsParams (ms ++ c :: rest) :=
        endsParams_modifiers hms hc
      have hends' : EndsModifiers (c :: rest) :=
        endsModifiers_of_not_continuers hc
      have hparams := scanParams_of_spelling hps hends
      have hmods := scanModifiers_of_spelling (o := o + 1 + ps.length)
        hms hends'
      have hshape : ps ++ (ms ++ [c]) ++ rest = ps ++ (ms ++ c :: rest) := by
        simp
      rw [scanDirective, hshape, hparams]
      simp only [hmods, List.length_cons, List.length_append,
        List.length_nil]
      congr 3
      omega

/-- A directive that is read was spelled. -/
theorem spelling_of_scanDirective {o : Nat} {t : Text} {token : Token}
    {q : Place} (h : scanDirective o ⟨o + 1, t⟩ = .ok (token, q)) :
    ∃ w, Place.Over ⟨o, '~' :: t⟩ w q
      ∧ token.clause.Spelling o token.char w := by
  unfold scanDirective at h
  split at h
  · cases h
  · next params p hparams =>
    split at h
    · cases h
    · next modifiers r hmods =>
      split at h
      · cases h
      · next c rest hr =>
        cases h
        obtain ⟨ps, hover, hps⟩ := spelling_of_scanParams hparams
        obtain ⟨ms, hover', hms⟩ := spelling_of_scanModifiers hmods
        have htilde : Place.Over ⟨o, '~' :: t⟩ ['~'] ⟨o + 1, t⟩ :=
          ⟨rfl, rfl⟩
        have hlast : r.Over [c] ⟨r.offset + 1, rest⟩ := ⟨hr, rfl⟩
        have hall := htilde.trans (hover.trans (hover'.trans hlast))
        exact ⟨_, hall, .mk hps hms⟩

-- ============================================ pieces and their letters

/-- The letter of a directive is one of the built-in ones. -/
theorem letter_of_directive {piece : Piece} {letter : Character}
    {clause : Clause} (h : piece.directive? = some (letter, clause)) :
    letter ∈ builtinLetters := by
  cases piece with
  | text => cases h
  | simple kind => cases h; exact letter_mem_builtinLetters kind
  | opener shape | closer shape => cases h; cases shape <;> decide
  | separator | escape => cases h; decide

/-- What is found under a character with a letter as its capital form is
the directive of that letter. -/
theorem get?_of_upperChar {c letter : Character} (hc : upperChar c = [letter])
    (hletter : letter ∈ builtinLetters) (registry : Registry) :
    registry.get? [c] = registry.get? [letter] :=
  get?_congr (hc.trans (upperChar_of_builtinLetters letter hletter).symm)

/-- The directive found for a piece leaves this piece. -/
theorem piece_of_directive {piece : Piece} {letter c : Character}
    {clause : Clause} {spec : Spec} (after : Place)
    (h : piece.directive? = some (letter, clause))
    (hc : upperChar c = [letter])
    (hspec : (Registry.builtin settings).get? [letter] = some spec) :
    spec.piece ⟨c, clause⟩ after = .ok (some piece, after) := by
  cases piece with
  | text => cases h
  | simple kind clause =>
      cases h
      rw [get?_kind] at hspec
      cases hspec
      cases kind <;> rfl
  | opener shape clause =>
      cases h
      cases shape <;>
        (cases eq_of_upperChar_mark (by decide) hc; cases hspec; rfl)
  | closer shape clause =>
      cases h
      cases shape <;>
        (cases eq_of_upperChar_mark (by decide) hc; cases hspec; rfl)
  | separator clause =>
      cases h
      cases eq_of_upperChar_mark (by decide) hc
      cases hspec
      rfl
  | escape clause =>
      cases h
      cases hspec
      rfl

/-- A directive that is no joined line leaves a piece of its letter. -/
theorem directive_of_piece {token : Token} {spec : Spec}
    (hspec : (Registry.builtin settings).get? [token.char] = some spec)
    (hjoin : spec ≠ Registry.continuationSpec) :
    ∃ piece letter, piece.directive? = some (letter, token.clause)
      ∧ upperChar token.char = [letter]
      ∧ ∀ after, spec.piece token after = .ok (some piece, after) := by
  obtain ⟨c, clause⟩ := token
  obtain ⟨hmem, hkey⟩ := mem_of_get? hspec
  rcases mem_specs_builtin hmem with ⟨kind, rfl⟩ | rfl | hmem
  · refine ⟨.simple kind clause, kind.letter, rfl, ?_, fun after => ?_⟩
    · rw [hkey]
      cases kind <;> rfl
    · cases kind <;> rfl
  · exact absurd rfl hjoin
  · simp only [Registry.constructSpecs, List.mem_cons,
      List.not_mem_nil, or_false] at hmem
    rcases hmem with rfl | rfl | rfl | rfl | rfl | rfl
    · cases eq_of_upperChar_mark (by decide) hkey
      exact ⟨.opener .iteration clause, _, rfl, hkey, fun _ => rfl⟩
    · cases eq_of_upperChar_mark (by decide) hkey
      exact ⟨.closer .iteration clause, _, rfl, hkey, fun _ => rfl⟩
    · cases eq_of_upperChar_mark (by decide) hkey
      exact ⟨.opener .justification clause, _, rfl, hkey, fun _ => rfl⟩
    · cases eq_of_upperChar_mark (by decide) hkey
      exact ⟨.closer .justification clause, _, rfl, hkey, fun _ => rfl⟩
    · cases eq_of_upperChar_mark (by decide) hkey
      exact ⟨.separator clause, _, rfl, hkey, fun _ => rfl⟩
    · exact ⟨.escape clause, _, rfl, hkey, fun _ => rfl⟩

-- ======================================================= whole directives

/-- A spelled piece that is allowed is read. -/
theorem readDirective_of_spelling {o : Nat} {piece : Piece} {w : Text}
    (h : piece.Spelling o ('~' :: w))
    (hallowed : piece.Allowed (.builtin settings)) (rest : Text) :
    readDirective (.builtin settings) o ⟨o + 1, w ++ rest⟩
      = .ok (some piece, ⟨o + ('~' :: w : Text).length, rest⟩) := by
  obtain ⟨letter, clause, c, hdir, hc, hw⟩ := h
  obtain ⟨-, spec, hspec, hadmits⟩ := hallowed letter clause hdir
  have hget := get?_of_upperChar hc (letter_of_directive hdir)
    (.builtin settings)
  rw [hspec] at hget
  rw [readDirective,
    scanDirective_of_spelling hw (not_mem_continuers_of_get? hget)]
  simp only [hget, (spec.check_eq_ok_iff clause).mpr hadmits]
  exact piece_of_directive _ hdir hc hspec

/-- The clause of a joined line has modifiers alone. -/
theorem continuation_admits_iff (clause : Clause) :
    Registry.continuationSpec.Admits clause ↔ clause.params = [] := by
  constructor
  · intro h
    exact List.length_eq_zero_iff.mp (Nat.le_zero.mp h.count)
  · intro h
    refine ⟨by simp [h], by simp [h, slotsTake_nil_left], ?_⟩
    exact ⟨fun _ => rfl, fun _ => rfl⟩

theorem toList_keptBreak (modifiers : Modifiers) (o : Nat) :
    (if modifiers.atSign then some (Piece.text ['\n'] o)
      else none).toList = keptBreak modifiers o := by
  unfold keptBreak
  cases modifiers.atSign <;> rfl

/-- The directive of a joined line, up to its line break. -/
theorem scanDirective_of_join {o : Nat} {modifiers : Modifiers}
    {ms : Text} (hms : ms.Perm modifiers.text) (rest : Text) :
    scanDirective o ⟨o + 1, ms ++ .scalar '\n' :: rest⟩
      = .ok (⟨'\n', ⟨[], modifiers, o⟩⟩,
          ⟨o + ('~' :: (ms ++ [.scalar '\n']) : Text).length, rest⟩) := by
  have hspelling : Clause.Spelling o ⟨[], modifiers, o⟩ '\n'
      ('~' :: ([] ++ (ms ++ [.scalar '\n']))) := .mk .none hms
  have hscan := scanDirective_of_spelling hspelling (by decide) rest
  simpa using hscan

/-- A spelled joined line is read, and what it leaves. -/
theorem readDirective_of_joinSpelling {o : Nat} {modifiers : Modifiers}
    {w rest : Text} (h : JoinSpelling modifiers ('~' :: w) rest) :
    ∃ piece?, readDirective (.builtin settings) o ⟨o + 1, w ++ rest⟩
        = .ok (piece?, ⟨o + ('~' :: w : Text).length, rest⟩)
      ∧ piece?.toList = keptBreak modifiers o := by
  cases h with
  | @mk ms blanks _ hms hblanks hcolon hrest =>
      have hscan := scanDirective_of_join (o := o) hms (blanks ++ rest)
      have hshape : ms ++ .scalar '\n' :: blanks ++ rest
          = ms ++ .scalar '\n' :: (blanks ++ rest) := by simp
      refine ⟨_, ?_, toList_keptBreak modifiers o⟩
      rw [readDirective, hshape, hscan]
      have hget : (Registry.builtin settings).get? ['\n']
          = some Registry.continuationSpec := rfl
      have hcheck : Registry.continuationSpec.check ⟨[], modifiers, o⟩
          = .ok () :=
        (Spec.check_eq_ok_iff _ _).mpr ((continuation_admits_iff _).mpr rfl)
      simp only [hget, hcheck]
      simp only [Spec.piece, Registry.continuationSpec]
      cases hm : modifiers.colon with
      | true =>
          rw [hcolon hm]
          simp
      | false =>
          simp only [Bool.false_eq_true, if_false,
            pass_append_stops hblanks (hrest hm), List.length_cons,
            List.length_append, List.length_nil]
          congr 3
          omega

/-- What a line break passes over is a joined line. -/
theorem joinSpelling_of_piece {o : Nat} {modifiers : Modifiers}
    {t ms : Text} {p q : Place} {piece? : Option Piece}
    (hms : ms.Perm modifiers.text)
    (hover : Place.Over ⟨o, t⟩ ('~' :: (ms ++ [.scalar '\n'])) p)
    (h : Registry.continuationSpec.piece ⟨'\n', ⟨[], modifiers, o⟩⟩ p
      = .ok (piece?, q)) :
    ∃ w, JoinSpelling modifiers w q.ahead ∧ Place.Over ⟨o, t⟩ w q
      ∧ piece?.toList = keptBreak modifiers o := by
  simp only [Spec.piece, Registry.continuationSpec] at h
  cases hm : modifiers.colon with
  | true =>
      simp only [hm, if_true] at h
      cases h
      refine ⟨'~' :: (ms ++ .scalar '\n' :: []), ?_, hover,
        toList_keptBreak _ _⟩
      exact .mk hms (List.forall_mem_nil _) (fun _ => rfl) (by simp [hm])
  | false =>
      simp only [hm, Bool.false_eq_true, if_false] at h
      cases h
      have hall := hover.trans (Place.over_pass p isIndentation)
      refine ⟨'~' :: (ms ++ .scalar '\n' :: p.ahead.takeWhile isIndentation),
        ?_,
        by simpa using hall, toList_keptBreak _ _⟩
      refine .mk hms (fun c hc => ?_) (by simp [hm]) fun _ => ?_
      · exact List.mem_takeWhile_imp hc
      · exact stops_dropWhile isIndentation p.ahead

/-- A directive that is read is an allowed piece that was spelled, or a
joined line. -/
theorem spelling_of_readDirective {o : Nat} {t : Text}
    {piece? : Option Piece} {q : Place}
    (h : readDirective (.builtin settings) o ⟨o + 1, t⟩
      = .ok (piece?, q)) :
    (∃ piece w, piece? = some piece ∧ piece.Spelling o w
        ∧ piece.Allowed (.builtin settings)
        ∧ Place.Over ⟨o, '~' :: t⟩ w q)
      ∨ ∃ modifiers w, JoinSpelling modifiers w q.ahead
        ∧ Place.Over ⟨o, '~' :: t⟩ w q
        ∧ piece?.toList = keptBreak modifiers o := by
  unfold readDirective at h
  split at h
  · cases h
  · next token after hscan =>
    split at h
    · cases h
    · next spec hspec =>
      split at h
      · cases h
      · next hcheck =>
        obtain ⟨w, hover, hw⟩ := spelling_of_scanDirective hscan
        have hadmits := (spec.check_eq_ok_iff _).mp hcheck
        by_cases hjoin : spec = Registry.continuationSpec
        · right
          obtain ⟨-, hkey⟩ := mem_of_get? hspec
          obtain ⟨c, clause⟩ := token
          subst hjoin
          have hc : c = '\n' := eq_of_upperChar_mark (by decide) hkey
          have hparams := (continuation_admits_iff clause).mp hadmits
          cases hw with
          | @mk params modifiers _ ps ms hps hms =>
              subst hc
              cases hparams
              cases hps with
              | some hslots => cases hslots
              | none =>
                  obtain ⟨w, hw⟩ := joinSpelling_of_piece hms hover h
                  exact ⟨modifiers, w, hw⟩
        · left
          obtain ⟨piece, letter, hdir, hletter, hpiece⟩ :=
            directive_of_piece hspec hjoin
          rw [hpiece after] at h
          cases h
          refine ⟨piece, w, rfl, ⟨letter, _, _, hdir, hletter, hw⟩, ?_,
            hover⟩
          intro letter' clause' hdir'
          rw [hdir] at hdir'
          cases hdir'
          refine ⟨?_, spec, ?_, hadmits⟩
          · exact hw.writable
          · rw [← get?_of_upperChar hletter (letter_of_directive hdir)]
            exact hspec

-- ====================================================== whole templates

theorem readPieces_nil (registry : Registry) (o : Nat) :
    readPieces registry ⟨o, []⟩ = ⟨[], none⟩ := by
  rw [readPieces]

/-- At a tilde a directive is read. -/
theorem readPieces_tilde {registry : Registry} {o : Nat} {t : Text}
    {piece? : Option Piece} {q : Place}
    (h : readDirective registry o ⟨o + 1, t⟩ = .ok (piece?, q)) :
    readPieces registry ⟨o, '~' :: t⟩
      = ⟨piece?.toList ++ (readPieces registry q).pieces,
          (readPieces registry q).error?⟩ := by
  rw [readPieces]
  simp only [if_true]
  split
  · next e he => rw [h] at he; cases he
  · next piece' q' he =>
    rw [h] at he
    cases he
    rfl

/-- A directive that cannot be read is where the pieces end. -/
theorem readPieces_tilde_error {registry : Registry} {o : Nat} {t : Text}
    {e : ParseError} (h : readDirective registry o ⟨o + 1, t⟩ = .error e) :
    readPieces registry ⟨o, '~' :: t⟩ = ⟨[], some e⟩ := by
  rw [readPieces]
  simp only [if_true]
  split
  · next e' he =>
    cases h.symm.trans he
    rfl
  · next he => cases h.symm.trans he

theorem ne_tilde_of_not_mem {t : Text} (h : .scalar '~' ∉ t) :
    ∀ c ∈ t, (c != '~') = true := by
  intro c hc
  rw [bne_iff_ne]
  rintro rfl
  exact h hc

theorem Fresh.stops {t : Text} (h : Fresh t) : Stops (· != '~') t := by
  intro c hc
  rw [h c hc]
  rfl

/-- Text is passed over to the next tilde. -/
theorem pass_text {o : Nat} {c : Character} {t rest : Text}
    (htilde : .scalar '~' ∉ c :: t) (hfresh : Fresh rest) :
    Place.pass ⟨o + 1, t ++ rest⟩ (· != '~')
      = ⟨o + (c :: t).length, rest⟩ := by
  have hrun := ne_tilde_of_not_mem (List.not_mem_of_not_mem_cons htilde)
  have hoffset : o + 1 + t.length = o + (c :: t).length := by
    rw [List.length_cons]
    omega
  rw [pass_append_stops hrun hfresh.stops, hoffset]

/-- Elsewhere text is read, to the next tilde. -/
theorem readPieces_text {registry : Registry} {o : Nat} {t rest : Text}
    (ht : t ≠ []) (htilde : .scalar '~' ∉ t) (hfresh : Fresh rest) :
    readPieces registry ⟨o, t ++ rest⟩
      = ⟨.text t o :: (readPieces registry ⟨o + t.length, rest⟩).pieces,
          (readPieces registry ⟨o + t.length, rest⟩).error?⟩ := by
  cases t with
  | nil => exact absurd rfl ht
  | cons c t =>
      have hc : c ≠ '~' := (List.ne_of_not_mem_cons htilde).symm
      have hrun := ne_tilde_of_not_mem (List.not_mem_of_not_mem_cons htilde)
      rw [List.cons_append, readPieces]
      simp only [hc, if_false, takeWhile_append_stops hrun hfresh.stops,
        pass_text htilde hfresh]

/-- A spelled template is read, piece by piece. -/
theorem readPieces_of_spelling {o : Nat} {t : Text} {pieces : List Piece}
    (h : Spelling (.builtin settings) o t pieces) :
    readPieces (.builtin settings) ⟨o, t⟩ = ⟨pieces, none⟩ := by
  induction h with
  | nil => exact readPieces_nil _ _
  | text ht htilde hfresh _ ih =>
      rw [readPieces_text ht htilde hfresh, ih]
  | @directive _ _ rest _ _ hpiece hallowed _ ih =>
      obtain ⟨w, rfl⟩ := hpiece.eq_tilde_cons
      have hread := readDirective_of_spelling hpiece hallowed rest
      rw [List.cons_append, readPieces_tilde hread, ih]
      rfl
  | join hjoin _ ih =>
      obtain ⟨w, rfl⟩ := hjoin.eq_tilde_cons
      obtain ⟨piece?, hread, hkept⟩ := readDirective_of_joinSpelling hjoin
      rw [List.cons_append, readPieces_tilde hread, ih, hkept]

/-- A template that is read to its end was spelled. -/
theorem spelling_of_readPieces {p : Place}
    (h : (readPieces (.builtin settings) p).error? = none) :
    Spelling (.builtin settings) p.offset p.ahead
      (readPieces (.builtin settings) p).pieces := by
  fun_induction readPieces (.builtin settings) p with
  | case1 p hp => rw [hp]; exact .nil
  | case2 => cases h
  | case3 p t piece? q hread rest hp ih =>
      rw [hp]
      rcases spelling_of_readDirective hread with
        ⟨piece, w, rfl, hpiece, hallowed, hover⟩
        | ⟨modifiers, w, hjoin, hover, hkept⟩
      · have hrest := ih h
        rw [hover.2] at hrest
        rw [show .scalar '~' :: t = w ++ q.ahead from hover.1]
        exact .directive hpiece hallowed hrest
      · have hrest := ih h
        rw [hover.2] at hrest
        rw [show .scalar '~' :: t = w ++ q.ahead from hover.1, hkept]
        exact .join hjoin hrest
  | case4 p c t hp hc run rest ih =>
      rw [hp]
      have hover : Place.Over ⟨p.offset, c :: t⟩ run
          (Place.pass ⟨p.offset + 1, t⟩ (· != '~')) := by
        have hfirst : Place.Over ⟨p.offset, c :: t⟩ [c]
            ⟨p.offset + 1, t⟩ := ⟨rfl, rfl⟩
        exact hfirst.trans (Place.over_pass _ _)
      have hrest := ih h
      rw [hover.2] at hrest
      rw [show c :: t = run ++ _ from hover.1]
      refine .text (List.cons_ne_nil _ _) ?_ ?_ hrest
      · intro hmem
        rcases List.mem_cons.mp hmem with rfl | hmem
        · exact hc rfl
        · have := List.mem_takeWhile_imp hmem
          exact absurd this (by decide)
      · intro d hd
        have := stops_dropWhile (· != '~') t d hd
        exact bne_eq_false_iff_eq.mp this

/-- The pieces of a template are those it is a spelling of. -/
theorem readPieces_eq_iff {o : Nat} {t : Text} {pieces : List Piece} :
    readPieces (.builtin settings) ⟨o, t⟩ = ⟨pieces, none⟩
      ↔ Spelling (.builtin settings) o t pieces := by
  constructor
  · intro h
    have herror : (readPieces (.builtin settings) ⟨o, t⟩).error? = none := by
      rw [h]
    have hspelling := spelling_of_readPieces herror
    rwa [h] at hspelling
  · exact readPieces_of_spelling

end TildeFormat
