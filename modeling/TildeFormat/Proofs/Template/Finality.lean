/-
What is wrong with a template stays wrong, whatever is written behind it.
The reader goes from left to right and looks at no more than the next
character, so it has made up its mind about a directive as soon as it has
read it, and the nest about a piece as soon as it is put in. Only the end
of the template can be taken back: a directive, a sign or a quote that
ends with it may go on, and what is still open may yet be closed.

The proof reads a text and the same text with more behind it side by
side. Where reading the first stops short of its end, reading the second
does the same and stops at the same place: `Settled`. It may not do the
same at the end itself, where digits, text and white space can go on. A
directive ends with its character, so it is the same even there, and only
the line it joins may go on behind it: `Decided`.
-/
import TildeFormat.Proofs.Template.Joining

namespace TildeFormat

variable {registry : Registry}

-- ================================================================= ends

/-- The place with more text at the end of what is ahead. -/
def Place.extend (p : Place) (s : Text) : Place := ⟨p.offset, p.ahead ++ s⟩

/-- The offset where what is ahead ends. -/
def Place.stop (p : Place) : Nat := p.offset + p.ahead.length

/-- What is wrong is that a template of this length ends: inside a
directive, at a sign or a quote, or before a construct is closed. -/
def ParseError.AtEnd (e : ParseError) (length : Nat) : Prop :=
  match e.cause with
  | .endsInDirective | .neverClosed _ => True
  | .signWithoutDigits _ | .quoteWithoutCharacter =>
    e.position + 1 = length
  | _ => False

/-- What reading comes to, without more text at the end and with it: the
same, unless it came to the end. -/
structure Settled {α : Type} (s : Text) (stop : Nat)
    (short long : Except ParseError (α × Place)) : Prop where
  ok : ∀ a q, short = .ok (a, q) → q.ahead ≠ [] →
    long = .ok (a, q.extend s)
  error : ∀ e, short = .error e → ¬e.AtEnd stop → long = .error e

/-- What reading a directive comes to, without more text at the end and
with it: the same, and at the end only the place behind it may differ. -/
structure Decided {α : Type} (s : Text) (stop : Nat)
    (short long : Except ParseError (α × Place)) : Prop where
  ok : ∀ a q, short = .ok (a, q) →
    ∃ q', long = .ok (a, q') ∧ (q.ahead ≠ [] → q' = q.extend s)
  error : ∀ e, short = .error e → ¬e.AtEnd stop → long = .error e

section

variable {α : Type} {s : Text} {stop : Nat} {p q : Place}

/-- Reading on does not move the end of the text. -/
theorem Place.Reaches.stop_eq (h : p.Reaches q) : q.stop = p.stop := by
  obtain ⟨seen, hahead, hoffset⟩ := h
  rw [stop, stop, hahead, hoffset, List.length_append, Nat.add_assoc]

theorem Settled.of_ok {a : α} {long : Except ParseError (α × Place)}
    (h : q.ahead ≠ [] → long = .ok (a, q.extend s)) :
    Settled s stop (.ok (a, q)) long where
  ok := by
    rintro _ _ ⟨⟩
    exact h
  error := by rintro _ ⟨⟩

theorem Settled.of_error {e : ParseError}
    {long : Except ParseError (α × Place)}
    (h : ¬e.AtEnd stop → long = .error e) :
    Settled s stop (.error e) long where
  ok := by rintro _ _ ⟨⟩
  error := by
    rintro _ ⟨⟩
    exact h

theorem Decided.of_ok {a : α} {q' : Place}
    (h : q.ahead ≠ [] → q' = q.extend s) :
    Decided s stop (.ok (a, q)) (.ok (a, q')) where
  ok := by
    rintro _ _ ⟨⟩
    exact ⟨q', rfl, h⟩
  error := by rintro _ ⟨⟩

theorem Decided.of_error {e : ParseError}
    {long : Except ParseError (α × Place)}
    (h : ¬e.AtEnd stop → long = .error e) :
    Decided s stop (.error e) long where
  ok := by rintro _ _ ⟨⟩
  error := by
    rintro _ ⟨⟩
    exact h

/-- What reads on and stops at the same place is settled. -/
theorem settled_ok (a : α) (q : Place) :
    Settled s stop (.ok (a, q)) (.ok (a, q.extend s)) :=
  .of_ok fun _ => rfl

/-- So is an error that stays. -/
theorem settled_error (e : ParseError) :
    Settled (α := α) s stop (.error e) (.error e) :=
  .of_error fun _ => rfl

/-- At the end nothing is settled. -/
theorem settled_of_ahead_eq_nil {a : α} (h : q.ahead = [])
    (long : Except ParseError (α × Place)) :
    Settled s stop (.ok (a, q)) long :=
  .of_ok fun hne => absurd h hne

/-- So is an error about the end of the text, whatever comes of it. -/
theorem settled_of_atEnd {e : ParseError} (h : e.AtEnd stop)
    (long : Except ParseError (α × Place)) :
    Settled s stop (.error e) long :=
  .of_error fun hne => absurd h hne

-- ============================================================ directives

/-- A run of characters that stops before the end stops there for
good. -/
theorem pass_extend {test : Character → Bool} (h : (p.pass test).ahead ≠ [])
    (s : Text) :
    (p.extend s).ahead.takeWhile test = p.ahead.takeWhile test
      ∧ (p.extend s).pass test = (p.pass test).extend s := by
  obtain ⟨o, t⟩ := p
  have hrun : ∀ c ∈ t.takeWhile test, test c = true :=
    fun _ => List.mem_takeWhile_imp
  have hstops : Stops test (t.dropWhile test ++ s) :=
    (stops_dropWhile test t).append fun hnil => absurd hnil h
  have hsplit : t ++ s
      = t.takeWhile test ++ (t.dropWhile test ++ s) := by
    rw [← List.append_assoc, List.takeWhile_append_dropWhile]
  constructor
  · show (t ++ s).takeWhile test = t.takeWhile test
    rw [hsplit, takeWhile_append_stops hrun hstops]
  · show Place.pass ⟨o, t ++ s⟩ test = _
    rw [hsplit, pass_append_stops hrun hstops]
    rfl

/-- A parameter that ends inside the text is read the same with more behind
it. -/
theorem settled_scanParam (p : Place) (s : Text) :
    Settled s p.stop (scanParam p) (scanParam (p.extend s)) := by
  obtain ⟨o, ahead⟩ := p
  cases ahead with
  | nil => exact settled_of_ahead_eq_nil rfl _
  | cons c t =>
      show Settled s _ _ (scanParam ⟨o, c :: (t ++ s)⟩)
      simp only [scanParam]
      split
      · -- digits may go on, and a sign may get some, only at the end
        by_cases hend : (Place.pass ⟨o + 1, t⟩ Character.isDigit).ahead = []
        · split
          · next hnone =>
            refine settled_of_atEnd ?_ _
            have hnil : t = [] := by
              rw [← List.takeWhile_append_dropWhile (p := Character.isDigit)
                (l := t), hnone.1, List.nil_append]
              exact hend
            rw [hnil]
            rfl
          · exact settled_of_ahead_eq_nil hend _
        · obtain ⟨hdigits, hpass⟩ := pass_extend hend s
          have hdigits : (t ++ s).takeWhile Character.isDigit
              = t.takeWhile Character.isDigit := hdigits
          have hpass : Place.pass ⟨o + 1, t ++ s⟩ Character.isDigit
              = (Place.pass ⟨o + 1, t⟩ Character.isDigit).extend s := hpass
          rw [hdigits, hpass]
          split
          · exact settled_error _
          · exact settled_ok _ _
      · split
        · cases t with
          | nil =>
              refine settled_of_atEnd ?_ _
              rfl
          | cons d rest => exact settled_ok _ _
        · split
          · exact settled_ok _ _
          · split
            · exact settled_ok _ _
            · exact settled_ok _ _

/-- A test that stops inside a text stops there with more behind it. -/
theorem stops_append_of_ne_nil {test : Character → Bool} {t : Text}
    (h : Stops test t) (hne : t ≠ []) (s : Text) : Stops test (t ++ s) :=
  h.append fun hnil => absurd hnil hne

/-- A parameter that cannot be read. -/
theorem scanParams_error {afterComma : Bool} {e : ParseError}
    (h : scanParam p = .error e) : scanParams afterComma p = .error e := by
  rw [scanParams]
  split
  · next he =>
    cases h.symm.trans he
    rfl
  · next he => cases h.symm.trans he

/-- Parameters behind a comma that cannot be read. -/
theorem scanParams_comma_error {afterComma : Bool}
    {source? : Option ParamSource} {rest : Text} {e : ParseError}
    (h : scanParam p = .ok (source?, q)) (hq : q.ahead = .scalar ',' :: rest)
    (hmore : scanParams true ⟨q.offset + 1, rest⟩ = .error e) :
    scanParams afterComma p = .error e := by
  rw [scanParams]
  split
  · next he => cases h.symm.trans he
  · next he =>
    cases h.symm.trans he
    split
    · next rest' hrest =>
      cases hq.symm.trans hrest
      rw [hmore]
    · next hne => exact absurd hq (hne rest)

/-- A parameter with another one behind it and no comma between. -/
theorem scanParams_missingComma {afterComma : Bool}
    {source : ParamSource} {c : Character}
    (h : scanParam p = .ok (some source, q))
    (hc : q.ahead.head? = some c) (hstarts : startsParam c = true) :
    scanParams afterComma p = .error ⟨.missingComma c, q.offset⟩ := by
  rw [scanParams]
  split
  · next he => cases h.symm.trans he
  · next he =>
    cases h.symm.trans he
    split
    · next rest hrest =>
      rw [hrest] at hc
      cases hc
      exact absurd hstarts (by decide)
    · simp only [hc, hstarts, if_true]

/-- A text without a comma in front stops a run of commas. -/
theorem stops_comma {t : Text} (h : ∀ rest, t = .scalar ',' :: rest → False) :
    Stops (· == ',') t := by
  intro c hc
  cases t with
  | nil => cases hc
  | cons d rest =>
      cases hc
      rw [beq_eq_false_iff_ne]
      rintro rfl
      exact h rest rfl

/-- Parameters, by the recursion of their reader. -/
theorem settled_scanParams (afterComma : Bool) (p : Place) (s : Text) :
    Settled s p.stop (scanParams afterComma p)
      (scanParams afterComma (p.extend s)) := by
  fun_induction scanParams afterComma p with
  | case1 afterComma p e hp =>
      refine .of_error fun hend => ?_
      exact scanParams_error ((settled_scanParam p s).error e hp hend)
  | case2 afterComma p source? q hp rest hq e hmore ih =>
      have hne : q.ahead ≠ [] := hq ▸ List.cons_ne_nil (.scalar ',') rest
      have hstop := (((reaches_of_scanParam hp).trans
        (reaches_tail hq)).stop_eq).symm
      refine .of_error fun hend => ?_
      exact scanParams_comma_error
        ((settled_scanParam p s).ok _ q hp hne)
        (congrArg (· ++ s) hq) (ih.error e hmore (hstop ▸ hend))
  | case3 afterComma p source? q hp rest hq more r hmore ih =>
      have hne : q.ahead ≠ [] := hq ▸ List.cons_ne_nil (.scalar ',') rest
      refine .of_ok fun hr => ?_
      exact scanParams_comma ((settled_scanParam p s).ok _ q hp hne)
        (congrArg (· ++ s) hq) (ih.ok more r hmore hr)
  | case4 afterComma p q hp _ hq =>
      refine .of_ok fun hne => ?_
      exact scanParams_none ((settled_scanParam p s).ok _ q hp hne)
        (stops_append_of_ne_nil (stops_comma hq) hne s)
  | case5 afterComma p q source hp c hstarts _ hq hc =>
      refine .of_error fun hend => ?_
      have hne : q.ahead ≠ [] := by
        intro hnil
        rw [hnil] at hc
        cases hc
      have hhead : (q.ahead ++ s).head? = some c := by
        rw [List.head?_append, hc]
        rfl
      exact scanParams_missingComma (q := q.extend s)
        ((settled_scanParam p s).ok _ q hp hne) hhead hstarts
  | case6 afterComma p q source hp c hstarts _ hq hc =>
      refine .of_ok fun hne => ?_
      have hstops : Stops startsParam q.ahead := by
        intro d hd
        cases hc.symm.trans hd
        exact Bool.eq_false_iff.mpr hstarts
      exact scanParams_some ((settled_scanParam p s).ok _ q hp hne)
        ⟨stops_append_of_ne_nil hstops hne s,
          stops_append_of_ne_nil (stops_comma hq) hne s⟩
  | case7 afterComma p q source hp _ hq hc =>
      exact settled_of_ahead_eq_nil (List.head?_eq_none_iff.mp hc) _

/-- Modifiers end where something else stands. -/
theorem settled_scanModifiers (found : Modifiers) (o : Nat) (t s : Text) :
    Settled s (Place.stop ⟨o, t⟩) (scanModifiers found o t)
      (scanModifiers found o (t ++ s)) := by
  fun_induction scanModifiers found o t with
  | case1 found o t hcolon =>
      rw [List.cons_append, scanModifiers, if_pos hcolon]
      exact settled_error _
  | case2 found o t hcolon ih =>
      rw [List.cons_append, scanModifiers, if_neg hcolon]
      have hstop : Place.stop ⟨o, ':' :: t⟩ = Place.stop ⟨o + 1, t⟩ :=
        (Place.reaches_cons.stop_eq).symm
      rw [hstop]
      exact ih
  | case3 found o t hat =>
      rw [List.cons_append, scanModifiers, if_pos hat]
      exact settled_error _
  | case4 found o t hat ih =>
      rw [List.cons_append, scanModifiers, if_neg hat]
      have hstop : Place.stop ⟨o, '@' :: t⟩ = Place.stop ⟨o + 1, t⟩ :=
        (Place.reaches_cons.stop_eq).symm
      rw [hstop]
      exact ih
  | case5 found o t hcolon hat =>
      cases t with
      | nil => exact settled_of_ahead_eq_nil rfl _
      | cons c t =>
          have hother : scanModifiers found o (c :: t ++ s)
              = .ok (found, ⟨o, c :: t ++ s⟩) := by
            rw [scanModifiers]
            · rintro rest ⟨⟩
              exact hcolon t rfl
            · rintro rest ⟨⟩
              exact hat t rfl
          rw [hother]
          exact settled_ok found ⟨o, c :: t⟩

theorem scanModifiers_nil (found : Modifiers) (o : Nat) :
    scanModifiers found o [] = .ok (found, ⟨o, []⟩) := rfl

/-- A directive ends with its character, so once it is read it stays as
it is, even at the end. -/
theorem scanDirective_extend (start : Nat) (p : Place) (s : Text) :
    (∀ token q, scanDirective start p = .ok (token, q) →
        scanDirective start (p.extend s) = .ok (token, q.extend s))
      ∧ ∀ e, scanDirective start p = .error e → ¬e.AtEnd p.stop →
        scanDirective start (p.extend s) = .error e := by
  have hshort := settled_scanParams false p s
  simp only [scanDirective]
  cases hparams : scanParams false p with
  | error e =>
      refine ⟨by rintro _ _ ⟨⟩, ?_⟩
      rintro _ ⟨⟩ hend
      rw [hshort.error e hparams hend]
  | ok read =>
      obtain ⟨params, q⟩ := read
      by_cases hq : q.ahead = []
      · simp only [hq, scanModifiers_nil]
        refine ⟨by rintro _ _ ⟨⟩, ?_⟩
        rintro _ ⟨⟩ hend
        exact absurd trivial hend
      · have hstop : q.stop = p.stop :=
          (reaches_of_scanParams hparams).stop_eq
        have hmore := settled_scanModifiers {} q.offset q.ahead s
        rw [hshort.ok params q hparams hq]
        simp only [Place.extend]
        cases hmodifiers : scanModifiers {} q.offset q.ahead with
        | error e =>
            refine ⟨by rintro _ _ ⟨⟩, ?_⟩
            rintro _ ⟨⟩ hend
            rw [hmore.error e hmodifiers (hstop ▸ hend)]
        | ok read =>
            obtain ⟨modifiers, o, ahead⟩ := read
            cases ahead with
            | nil =>
                refine ⟨by rintro _ _ ⟨⟩, ?_⟩
                rintro _ ⟨⟩ hend
                exact absurd trivial hend
            | cons c rest =>
                refine ⟨?_, by rintro _ ⟨⟩⟩
                rintro _ _ ⟨⟩
                rw [hmore.ok modifiers _ hmodifiers (List.cons_ne_nil c rest)]
                rfl

/-- The piece of a directive does not depend on what is behind it, which
a joined line may take along. -/
theorem piece_extend (spec : Spec) (token : Token) (after : Place)
    (s : Text) :
    Decided s stop (spec.piece token after)
      (spec.piece token (after.extend s)) := by
  unfold Spec.piece
  split
  · refine .of_ok fun hne => ?_
    split
    · rfl
    · next hcolon =>
      rw [if_neg hcolon] at hne
      exact (pass_extend hne s).2
  · exact .of_ok fun _ => rfl
  · exact .of_ok fun _ => rfl
  · split
    · exact .of_ok fun _ => rfl
    · exact .of_error fun _ => rfl

/-- A whole directive: it ends inside the text, or the text ends inside it.
-/
theorem readDirective_extend (registry : Registry) (start : Nat)
    (p : Place) (s : Text) :
    Decided s p.stop (readDirective registry start p)
      (readDirective registry start (p.extend s)) := by
  obtain ⟨hok, herror⟩ := scanDirective_extend start p s
  simp only [readDirective]
  cases hscan : scanDirective start p with
  | error e =>
      refine .of_error fun hend => ?_
      rw [herror e hscan hend]
  | ok scanned =>
      obtain ⟨token, after⟩ := scanned
      rw [hok token after hscan]
      simp only
      split
      · exact .of_error fun _ => rfl
      · split
        · exact .of_error fun _ => rfl
        · exact piece_extend _ token after s

end

-- ============================================================= templates

/-- The nest with the pieces of a reading put in, or the first thing
wrong with the pieces or behind them. -/
def Reading.enter (reading : Reading) (nest : Nest) :
    Except ParseError Nest :=
  match nest.steps reading.pieces with
  | .error e => .error e
  | .ok last =>
    match reading.error? with
    | some e => .error e
    | none => .ok last

/-- A parse reads pieces and puts them together, up to the first error of
either. -/
theorem parse_eq_enter (registry : Registry) (t : Text) :
    parse registry t
      = match (readPieces registry (Place.start t)).enter .empty with
        | .error e => .error e
        | .ok nest => nest.finish := by
  simp only [parse, Reading.enter]
  cases Nest.empty.steps (readPieces registry (Place.start t)).pieces with
  | error e => rfl
  | ok nest =>
      cases (readPieces registry (Place.start t)).error? with
      | none => rfl
      | some e => rfl

section

variable {nest : Nest} {reading : Reading} {e : ParseError}

/-- A first piece is put in before the rest. -/
theorem Reading.enter_cons (piece : Piece) (reading : Reading)
    (nest : Nest) :
    Reading.enter ⟨piece :: reading.pieces, reading.error?⟩ nest
      = match nest.step piece with
        | .error e => .error e
        | .ok next => reading.enter next := by
  simp only [Reading.enter, Nest.steps]
  cases nest.step piece <;> rfl

theorem extend_eq {p : Place} {c : Character} {t : Text}
    (h : p.ahead = c :: t) (s : Text) :
    p.extend s = ⟨p.offset, c :: (t ++ s)⟩ := by
  rw [Place.extend, h, List.cons_append]

/-- At the end of the text there are no pieces. -/
theorem readPieces_of_ahead_eq_nil {p : Place} (h : p.ahead = []) :
    readPieces registry p = ⟨[], none⟩ := by
  obtain ⟨o, ahead⟩ := p
  cases h
  exact readPieces_nil registry o

/-- What is wrong with the pieces of a text, or with the directive behind
them, is still wrong when the text goes on. -/
theorem enter_extend {p : Place} (hend : ¬e.AtEnd p.stop) (s : Text) :
    ∀ nest, (readPieces registry p).enter nest = .error e →
      (readPieces registry (p.extend s)).enter nest = .error e := by
  fun_induction readPieces registry p with
  | case1 p hp =>
      intro nest h
      cases h
  | case2 p t e' hread hp =>
      intro nest h
      have hlong := (readDirective_extend registry p.offset
        ⟨p.offset + 1, t⟩ s).error e' hread
      cases h
      rw [extend_eq hp, readPieces_tilde_error
        (hlong ((reaches_tail hp).stop_eq ▸ hend))]
      rfl
  | case3 p t piece? q hread rest hp ih =>
      intro nest h
      obtain ⟨q', hlong, hq'⟩ := (readDirective_extend registry p.offset
        ⟨p.offset + 1, t⟩ s).ok piece? q hread
      have hstop : q.stop = p.stop := ((reaches_tail hp).trans
        (length_lt_of_readDirective hread).1).stop_eq
      have hrest (next : Nest)
          (h : (readPieces registry q).enter next = .error e) :
          (readPieces registry q').enter next = .error e := by
        by_cases hq : q.ahead = []
        · rw [readPieces_of_ahead_eq_nil hq] at h
          cases h
        · rw [hq' hq]
          exact ih (hstop ▸ hend) next h
      rw [extend_eq hp, readPieces_tilde hlong]
      cases piece? with
      | none => exact hrest nest h
      | some piece =>
          rw [Option.toList_some, List.singleton_append,
            Reading.enter_cons] at h ⊢
          cases hstep : nest.step piece with
          | error e' =>
              rw [hstep] at h
              exact h
          | ok next =>
              rw [hstep] at h
              exact hrest next h
  | case4 p c t hp hc run rest ih =>
      intro nest h
      have hpass := Place.reaches_pass ⟨p.offset + 1, t⟩ (· != .scalar '~')
      have hstop := ((reaches_tail hp).trans hpass).stop_eq
      rw [Reading.enter_cons] at h
      by_cases hq :
          (Place.pass ⟨p.offset + 1, t⟩ (· != .scalar '~')).ahead = []
      · have hrest : rest = ⟨[], none⟩ := readPieces_of_ahead_eq_nil hq
        rw [hrest] at h
        cases h
      · obtain ⟨hrun, hnext⟩ := pass_extend hq s
        have hrun : (t ++ s).takeWhile (· != .scalar '~')
            = t.takeWhile (· != .scalar '~') := hrun
        have hnext : Place.pass ⟨p.offset + 1, t ++ s⟩ (· != .scalar '~')
            = (Place.pass ⟨p.offset + 1, t⟩ (· != .scalar '~')).extend s :=
          hnext
        rw [extend_eq hp, readPieces]
        simp only [hc, if_false, hrun, hnext]
        rw [Reading.enter_cons]
        exact ih (hstop ▸ hend) _ h

/-- A template that is refused for anything but that it ends is refused
for the same, at the same place, whatever is written behind it. -/
theorem parse_append_of_error {t : Text}
    (h : parse registry t = .error e) (hend : ¬e.AtEnd t.length)
    (s : Text) : parse registry (t ++ s) = .error e := by
  rw [parse_eq_enter] at h ⊢
  have hstop : (Place.start t).stop = t.length := Nat.zero_add _
  cases hnest : (readPieces registry (Place.start t)).enter .empty with
  | error e' =>
      rw [hnest] at h
      cases h
      have hlong : (readPieces registry (Place.start (t ++ s))).enter .empty
          = .error e := enter_extend (hstop ▸ hend) s _ hnest
      rw [hlong]
  | ok nest =>
      rw [hnest] at h
      obtain ⟨current, frames⟩ := nest
      cases frames with
      | nil => cases h
      | cons frame outer =>
          cases h
          exact absurd trivial hend

end

/-- A sign without digits that a letter stands behind, and digits behind
the template. -/
theorem parse_append_of_error_sign :
    let t := word "~\x7b~,'~D~^~\x7d~-x"
    let e : ParseError := ⟨.signWithoutDigits '-', 12⟩
    parse .standard t = .error e ∧ ¬e.AtEnd t.length
      ∧ parse .standard (t ++ word "5D") = .error e := by
  have h : parse .standard (word "~\x7b~,'~D~^~\x7d~-x")
      = .error ⟨.signWithoutDigits '-', 12⟩ := by
    with_unfolding_all rfl
  have hend : ¬12 + 1 = 14 := by decide
  exact ⟨h, hend, parse_append_of_error h hend (word "5D")⟩

end TildeFormat
