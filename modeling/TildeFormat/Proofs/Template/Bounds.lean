/-
What reading reports is in the template. A piece has places of its own,
those of its tilde and of its parameters, and an error has one; each of
them is the offset of a character that was ahead when reading began.

For a parameter this is not said by the reader of parameters alone, for
one that is left out behind a last comma has the place of what comes
next, and there may be nothing. But a directive ends with a character, so
once it is read there was something: `places_of_scanDirective`.

An opener may be blamed long after it was read. Until then its clause
waits in a frame, so a nest carries the condition for all the places it
may still report: `Nest.OpenedAt`.
-/
import TildeFormat.Proofs.Template.Finality

namespace TildeFormat

variable {registry : Registry} {p q : Place} {e : ParseError}
  {o place : Nat} {t : Text}

-- =============================================================== places

/-- A character that is ahead stands at the offset. -/
def Place.Within (p : Place) (o : Nat) : Prop := p.offset ≤ o ∧ o < p.stop

/-- Reading goes forward. -/
theorem Place.Reaches.offset_le (h : p.Reaches q) :
    p.offset ≤ q.offset := by
  obtain ⟨seen, -, hoffset⟩ := h
  rw [hoffset]
  exact Nat.le_add_right _ _

/-- What is ahead later was ahead before. -/
theorem Place.Reaches.within (h : p.Reaches q) (hq : q.Within o) :
    p.Within o :=
  ⟨Nat.le_trans h.offset_le hq.1, h.stop_eq ▸ hq.2⟩

/-- And no further than the end of the text. -/
theorem Place.Reaches.offset_le_stop (h : p.Reaches q) :
    q.offset ≤ p.stop :=
  h.stop_eq ▸ Nat.le_add_right _ _

/-- The next character. -/
theorem Place.within_offset {c : Character} (h : p.ahead = c :: t) :
    p.Within p.offset := by
  refine ⟨Nat.le_refl _, ?_⟩
  rw [Place.stop, h, List.length_cons]
  omega

-- =========================================================== directives

/-- A parameter that is refused is refused inside the text. -/
theorem within_of_scanParam (h : scanParam p = .error e) :
    p.Within e.position := by
  obtain ⟨o, ahead⟩ := p
  cases ahead with
  | nil => cases h
  | cons c t =>
      -- a sign and a quote are blamed where they stand
      have hposition : e.position = o := by
        simp only [scanParam] at h
        split at h
        · split at h
          · cases h
            rfl
          · cases h
        · split at h
          · split at h
            · cases h
              rfl
            · cases h
          · split at h
            · cases h
            · split at h <;> cases h
      rw [hposition]
      exact Place.within_offset rfl

/-- So are parameters, at the one that is refused. -/
theorem within_of_scanParams {afterComma : Bool}
    (h : scanParams afterComma p = .error e) : p.Within e.position := by
  fun_induction scanParams afterComma p generalizing e with
  | case1 _ p _ hp =>
      cases h
      exact within_of_scanParam hp
  | case2 _ p _ q hp rest hq _ hmore ih =>
      cases h
      exact ((reaches_of_scanParam hp).trans (reaches_tail hq)).within
        (ih hmore)
  | case3 => cases h
  | case4 => cases h
  | case5 _ p q source hp c hstarts _ hq hc =>
      cases h
      obtain ⟨rest, hrest⟩ := List.head?_eq_some_iff.mp hc
      exact (reaches_of_scanParam hp).within (Place.within_offset hrest)
  | case6 => cases h
  | case7 => cases h

/-- A parameter has the place where it starts, or where it is missed. -/
theorem position_of_scanParams {afterComma : Bool} {params : List Param}
    (h : scanParams afterComma p = .ok (params, q)) {param : Param}
    (hparam : param ∈ params) :
    p.offset ≤ param.position ∧ param.position ≤ q.offset := by
  fun_induction scanParams afterComma p generalizing params q with
  | case1 => cases h
  | case2 => cases h
  | case3 _ p _ q' hp rest hq more r hmore ih =>
      cases h
      have hfirst := (reaches_of_scanParam hp).offset_le
      have hrest : q'.offset + 1 ≤ r.offset :=
        (reaches_of_scanParams hmore).offset_le
      rcases List.mem_cons.mp hparam with rfl | hlater
      · have hto : p.offset ≤ r.offset := by omega
        exact ⟨Nat.le_refl _, hto⟩
      · obtain ⟨hfrom, hto⟩ := ih hmore hlater
        have hfrom : q'.offset + 1 ≤ param.position := hfrom
        exact ⟨by omega, hto⟩
  | case4 _ p q' hp =>
      cases h
      split at hparam
      · cases List.mem_singleton.mp hparam
        exact ⟨Nat.le_refl _, (reaches_of_scanParam hp).offset_le⟩
      · cases hparam
  | case5 => cases h
  | case6 _ p q' _ hp =>
      cases h
      cases List.mem_singleton.mp hparam
      exact ⟨Nat.le_refl _, (reaches_of_scanParam hp).offset_le⟩
  | case7 _ p q' _ hp =>
      cases h
      cases List.mem_singleton.mp hparam
      exact ⟨Nat.le_refl _, (reaches_of_scanParam hp).offset_le⟩

/-- So are modifiers. -/
theorem within_of_scanModifiers {found : Modifiers}
    (h : scanModifiers found o t = .error e) :
    Place.Within ⟨o, t⟩ e.position := by
  fun_induction scanModifiers found o t with
  | case1 | case3 =>
      cases h
      exact Place.within_offset rfl
  | case2 _ _ _ _ ih => exact Place.reaches_cons.within (ih h)
  | case4 _ _ _ _ ih => exact Place.reaches_cons.within (ih h)
  | case5 => cases h

/-- And so is a directive, at its tilde or behind it. -/
theorem within_of_scanDirective
    (h : scanDirective o ⟨o + 1, t⟩ = .error e) :
    Place.Within ⟨o, '~' :: t⟩ e.position := by
  unfold scanDirective at h
  split at h
  · next hparams =>
    cases h
    exact Place.reaches_cons.within (within_of_scanParams hparams)
  · next params q hparams =>
    have hreaches := (Place.reaches_cons (c := '~')).trans
      (reaches_of_scanParams hparams)
    split at h
    · next hmodifiers =>
      cases h
      exact hreaches.within (within_of_scanModifiers hmodifiers)
    · split at h
      · cases h
        exact Place.within_offset rfl
      · cases h

/-- The places of a directive are in what was read over for it. -/
theorem places_of_scanDirective {token : Token}
    (h : scanDirective o ⟨o + 1, t⟩ = .ok (token, q))
    (hplace : place ∈ token.clause.places) :
    o ≤ place ∧ place < q.offset := by
  unfold scanDirective at h
  split at h
  · cases h
  · next params p hparams =>
    split at h
    · cases h
    · next modifiers r hmodifiers =>
      split at h
      · cases h
      · next c rest hr =>
        cases h
        have hfrom := (reaches_of_scanParams hparams).offset_le
        have hto : p.offset ≤ r.offset :=
          (reaches_of_scanModifiers hmodifiers).offset_le
        simp only at hfrom ⊢
        rcases List.mem_cons.mp hplace with rfl | hparam
        · exact ⟨Nat.le_refl _, by omega⟩
        · obtain ⟨param, hmem, rfl⟩ := List.mem_map.mp hparam
          obtain ⟨hbegin, hend⟩ := position_of_scanParams hparams hmem
          simp only at hbegin
          omega

/-- A value that is refused is refused at its parameter. -/
theorem position_of_checkSlots {directive : Text} {params : List Param}
    {slots : List ParamSpec}
    (h : checkSlots directive params slots = .error e) :
    e.position ∈ params.map Param.position := by
  fun_induction checkSlots directive params slots with
  | case1 _ _ _ _ _ ih => exact List.mem_cons_of_mem _ (ih h)
  | case2 | case3 =>
      cases h
      exact List.mem_cons_self
  | case4 _ _ _ _ _ _ _ _ ih => exact List.mem_cons_of_mem _ (ih h)
  | case5 => cases h

/-- A directive that does not fit its specification is blamed at one of
its places. -/
theorem Spec.place_of_check {spec : Spec} {clause : Clause}
    (h : spec.check clause = .error e) : e.position ∈ clause.places := by
  unfold check at h
  split at h
  · next hextra =>
    cases h
    exact List.mem_cons_of_mem _
      (List.mem_map_of_mem (List.mem_of_getElem? hextra))
  · split at h
    · next hslots =>
      cases h
      exact List.mem_cons_of_mem _ (position_of_checkSlots hslots)
    · dsimp only at h
      split at h
      · cases h
      · cases h
        exact List.mem_cons_self

theorem places_of_structuralPiece {token : Token} {piece : Piece}
    (h : structuralPiece token = some piece) :
    piece.places = token.clause.places := by
  unfold structuralPiece at h
  repeat' split at h
  all_goals cases h <;> rfl

/-- A piece has no places but those of its directive. -/
theorem Spec.places_of_piece {spec : Spec} {token : Token}
    {piece : Piece} (h : spec.piece token p = .ok (some piece, q))
    (hplace : place ∈ piece.places) : place ∈ token.clause.places := by
  unfold Spec.piece at h
  split at h
  · split at h
    · cases h
      cases List.mem_singleton.mp hplace
      exact List.mem_cons_self
    · cases h
  · obtain ⟨hstructural, -⟩ := Prod.mk.inj (Except.ok.inj h)
    exact places_of_structuralPiece hstructural ▸ hplace
  · cases h
    exact hplace
  · split at h
    · cases h
      exact hplace
    · cases h

/-- A directive that its spec refuses is refused at its tilde. -/
theorem Spec.position_of_piece {spec : Spec} {token : Token}
    (h : spec.piece token p = .error e) :
    e.position = token.clause.position := by
  unfold Spec.piece at h
  split at h
  · cases h
  · cases h
  · cases h
  · split at h
    · cases h
    · cases h
      rfl

/-- So reading a directive fails inside the text. -/
theorem within_of_readDirective
    (h : readDirective registry o ⟨o + 1, t⟩ = .error e) :
    Place.Within ⟨o, '~' :: t⟩ e.position := by
  unfold readDirective at h
  split at h
  · next hscan =>
    cases h
    exact within_of_scanDirective hscan
  · next token after hscan =>
    have hreaches := (Place.reaches_cons (c := '~')).trans
      (length_lt_of_scanDirective hscan).1
    have hwithin (hplace : e.position ∈ token.clause.places) :
        Place.Within ⟨o, '~' :: t⟩ e.position := by
      obtain ⟨hfrom, hto⟩ := places_of_scanDirective hscan hplace
      exact ⟨hfrom, Nat.lt_of_lt_of_le hto hreaches.offset_le_stop⟩
    split at h
    · cases h
      exact Place.within_offset rfl
    · split at h
      · next hcheck =>
        cases h
        exact hwithin (Spec.place_of_check hcheck)
      · have hposition := Spec.position_of_piece h
        exact hwithin (hposition ▸ token.clause.position_mem)

/-- And the places of one that is read are inside the text. -/
theorem places_of_readDirective {piece : Piece}
    (h : readDirective registry o ⟨o + 1, t⟩ = .ok (some piece, q))
    (hplace : place ∈ piece.places) :
    Place.Within ⟨o, '~' :: t⟩ place := by
  unfold readDirective at h
  split at h
  · cases h
  · next token after hscan =>
    split at h
    · cases h
    · split at h
      · cases h
      · obtain ⟨hfrom, hto⟩ := places_of_scanDirective hscan
          (Spec.places_of_piece h hplace)
        have hreaches := (Place.reaches_cons (c := '~')).trans
          (length_lt_of_scanDirective hscan).1
        exact ⟨hfrom, Nat.lt_of_lt_of_le hto hreaches.offset_le_stop⟩

-- ============================================================= templates

/-- The places of what is read, and of the directive that cannot be. -/
theorem places_of_readPieces (registry : Registry) (p : Place) :
    (∀ piece ∈ (readPieces registry p).pieces, ∀ place ∈ piece.places,
        p.Within place)
      ∧ ∀ e, (readPieces registry p).error? = some e →
        p.Within e.position := by
  fun_induction readPieces registry p with
  | case1 p hp =>
      refine ⟨List.forall_mem_nil _, ?_⟩
      intro e he
      cases he
  | case2 p t e hread hp =>
      refine ⟨List.forall_mem_nil _, ?_⟩
      intro e' he
      cases he
      have hwithin := within_of_readDirective hread
      rwa [← hp] at hwithin
  | case3 p t piece? q hread rest hp ih =>
      obtain ⟨hpieces, herror⟩ := ih
      have hreaches := (reaches_tail hp).trans
        (length_lt_of_readDirective hread).1
      refine ⟨fun piece hpiece place hplace => ?_,
        fun e he => hreaches.within (herror e he)⟩
      rcases List.mem_append.mp hpiece with hfirst | hrest
      · rw [Option.mem_toList.mp hfirst] at hread
        have hwithin := places_of_readDirective hread hplace
        rwa [← hp] at hwithin
      · exact hreaches.within (hpieces piece hrest place hplace)
  | case4 p c t hp hc run rest ih =>
      obtain ⟨hpieces, herror⟩ := ih
      have hreaches := (reaches_tail hp).trans
        (Place.reaches_pass ⟨p.offset + 1, t⟩ (· != '~'))
      refine ⟨fun piece hpiece place hplace => ?_,
        fun e he => hreaches.within (herror e he)⟩
      rcases List.mem_cons.mp hpiece with rfl | hrest
      · cases List.mem_singleton.mp hplace
        exact Place.within_offset hp
      · exact hreaches.within (hpieces piece hrest place hplace)

/-- The places of spelled pieces are in what they are spelled by. -/
theorem Spelling.places_within {settings : Settings} {ps : List Piece}
    (h : Spelling (.builtin settings) o t ps) {piece : Piece}
    (hpiece : piece ∈ ps) (hplace : place ∈ piece.places) :
    o ≤ place ∧ place < o + t.length := by
  have hall := (places_of_readPieces (.builtin settings) ⟨o, t⟩).1
  rw [readPieces_of_spelling h] at hall
  exact hall piece hpiece place hplace

/-- The places of the openers of the open constructs satisfy a
condition. -/
def Nest.OpenedAt (P : Nat → Prop) (nest : Nest) : Prop :=
  ∀ frame ∈ nest.frames, P frame.clause.position

section

variable {P : Nat → Prop} {nest last : Nest} {piece : Piece}

/-- A construct that cannot be closed is blamed on its opener. -/
theorem Nest.position_of_close {frame : Frame} {current : List Node}
    {closer : Clause} (h : Nest.close frame current closer = .error e) :
    e.position = frame.clause.position := by
  unfold Nest.close at h
  split at h
  · split at h
    · cases h
      rfl
    · cases h
  · cases h

/-- An escape that may not stand somewhere is refused at its tilde. -/
theorem Nest.position_of_checkEscape {clause : Clause}
    (h : nest.checkEscape clause = .error e) :
    e.position = clause.position := by
  unfold Nest.checkEscape at h
  split at h
  · cases h
    rfl
  · split at h
    · cases h
      rfl
    · cases h

/-- A piece that does not fit is blamed itself or on an opener. -/
theorem Nest.OpenedAt.error (h : nest.OpenedAt P)
    (hpiece : ∀ place ∈ piece.places, P place)
    (herror : nest.step piece = .error e) : P e.position := by
  obtain ⟨current, frames⟩ := nest
  cases piece with
  | text | simple | opener => cases herror
  | closer shape clause =>
      have hclause := hpiece _ clause.position_mem
      simp only [Nest.step] at herror
      split at herror
      · cases herror
        exact hclause
      · next frame outer =>
        split at herror
        · cases herror
          exact hclause
        · split at herror
          · next hclose =>
            cases herror
            rw [Nest.position_of_close hclose]
            exact h frame List.mem_cons_self
          · cases herror
  | separator clause =>
      have hclause := hpiece _ clause.position_mem
      simp only [Nest.step] at herror
      split at herror
      · split at herror
        · cases herror
        · cases herror
          exact hclause
      · cases herror
        exact hclause
  | escape clause =>
      simp only [Nest.step] at herror
      split at herror
      · next hcheck =>
        cases herror
        rw [Nest.position_of_checkEscape hcheck]
        exact hpiece _ clause.position_mem
      · cases herror

/-- A piece opens a construct at its own place at most. -/
theorem Nest.OpenedAt.step (h : nest.OpenedAt P)
    (hpiece : ∀ place ∈ piece.places, P place)
    (hstep : nest.step piece = .ok last) : last.OpenedAt P := by
  obtain ⟨current, frames⟩ := nest
  have hframes : ∀ frame ∈ frames, P frame.clause.position := h
  cases piece with
  | text t o =>
      cases hstep
      rw [Nest.addText_eq_addNode]
      exact hframes
  | simple =>
      cases hstep
      exact hframes
  | opener shape clause =>
      cases hstep
      exact List.forall_mem_cons.mpr
        ⟨hpiece _ clause.position_mem, hframes⟩
  | closer shape clause =>
      simp only [Nest.step] at hstep
      split at hstep
      · cases hstep
      · split at hstep
        · cases hstep
        · split at hstep
          · cases hstep
          · cases hstep
            exact (List.forall_mem_cons.mp hframes).2
  | separator clause =>
      simp only [Nest.step] at hstep
      split at hstep
      · split at hstep
        · cases hstep
          obtain ⟨hframe, houter⟩ := List.forall_mem_cons.mp hframes
          exact List.forall_mem_cons.mpr ⟨hframe, houter⟩
        · cases hstep
      · cases hstep
  | escape clause =>
      simp only [Nest.step] at hstep
      split at hstep
      · cases hstep
      · cases hstep
        exact hframes

/-- So it is with many pieces. -/
theorem Nest.OpenedAt.steps {ps : List Piece} (h : nest.OpenedAt P)
    (hps : ∀ piece ∈ ps, ∀ place ∈ piece.places, P place) :
    (∀ e, nest.steps ps = .error e → P e.position)
      ∧ ∀ last, nest.steps ps = .ok last → last.OpenedAt P := by
  induction ps generalizing nest with
  | nil =>
      constructor
      · intro e he
        cases he
      · intro last hlast
        cases hlast
        exact h
  | cons piece ps ih =>
      obtain ⟨hpiece, hrest⟩ := List.forall_mem_cons.mp hps
      rw [Nest.steps]
      cases hstep : nest.step piece with
      | error e =>
          constructor
          · intro e' he
            cases he
            exact h.error hpiece hstep
          · intro last hlast
            cases hlast
      | ok next => exact ih (h.step hpiece hstep) hrest

end

/-- A template that is refused is refused at one of its characters. -/
theorem position_lt_of_parse (h : parse registry t = .error e) :
    e.position < t.length := by
  obtain ⟨hpieces, herror⟩ := places_of_readPieces registry (Place.start t)
  have hempty : Nest.empty.OpenedAt (Place.start t).Within :=
    List.forall_mem_nil _
  obtain ⟨hfailed, hlast⟩ := hempty.steps hpieces
  have hwithin : (Place.start t).Within e.position := by
    simp only [parse] at h
    split at h
    · next hsteps =>
      cases h
      exact hfailed _ hsteps
    · next nest hsteps =>
      split at h
      · next he =>
        cases h
        exact herror _ he
      · obtain ⟨current, frames⟩ := nest
        cases frames with
        | nil => cases h
        | cons frame outer =>
            cases h
            exact hlast _ hsteps frame List.mem_cons_self
  have hstop : (Place.start t).stop = t.length := Nat.zero_add _
  exact hstop ▸ hwithin.2

end TildeFormat
