/-
Reading a parameter list and the modifiers behind it, against their
spellings, in both directions: what is read was spelled, and what is
spelled is read, whatever stands behind it that cannot go on with it.
-/
import TildeFormat.Proofs.Template.Spelling
import TildeFormat.Proofs.Text.Run

namespace TildeFormat

-- ============================================================= places

namespace Place

/-- Reading over `w` from `p` on comes to `q`. -/
def Over (p : Place) (w : Text) (q : Place) : Prop :=
  p.ahead = w ++ q.ahead ∧ q.offset = p.offset + w.length

theorem Over.nil (p : Place) : p.Over [] p := ⟨rfl, rfl⟩

theorem Over.trans {p q r : Place} {v w : Text} (h : p.Over v q)
    (k : q.Over w r) : p.Over (v ++ w) r := by
  obtain ⟨hv, hv'⟩ := h
  obtain ⟨hw, hw'⟩ := k
  refine ⟨by rw [hv, hw, List.append_assoc], ?_⟩
  rw [hw', hv', List.length_append, Nat.add_assoc]

theorem over_pass (p : Place) (test : Character → Bool) :
    p.Over (p.ahead.takeWhile test) (p.pass test) :=
  ⟨List.takeWhile_append_dropWhile.symm, rfl⟩

end Place

/-- One character further. -/
theorem reaches_tail {p : Place} {c : Character} {rest : Text}
    (h : p.ahead = c :: rest) : p.Reaches ⟨p.offset + 1, rest⟩ :=
  ⟨[c], h, rfl⟩

theorem pass_append_stops {test : Character → Bool} {o : Nat} {t rest : Text}
    (ht : ∀ c ∈ t, test c = true) (hrest : Stops test rest) :
    Place.pass ⟨o, t ++ rest⟩ test = ⟨o + t.length, rest⟩ := by
  unfold Place.pass
  simp only [takeWhile_append_stops ht hrest,
    dropWhile_append_stops ht hrest]

-- ====================================================== one parameter

/-- A digit is no sign. -/
theorem isDigit_ne_sign {c : Character} (h : c.isDigit = true) :
    c ≠ '+' ∧ c ≠ '-' := by
  constructor <;> (rintro rfl; exact absurd h (by decide))

theorem stops_isDigit {t : Text} (h : Stops startsParam t) :
    Stops Character.isDigit t := by
  intro c hc
  have := h c hc
  rw [startsParam, Bool.or_eq_false_iff] at this
  exact this.1

/-- A spelled parameter is read; of an omitted one, nothing. -/
theorem scanParam_of_spelling {source : ParamSource} {w rest : Text}
    {o : Nat} (h : source.Spelling w) (hrest : Stops startsParam rest) :
    scanParam ⟨o, w ++ rest⟩
      = .ok (if source = .omitted then none else some source,
          ⟨o + w.length, rest⟩) := by
  have hstops := stops_isDigit hrest
  cases h with
  | omitted =>
      cases rest with
      | nil => rfl
      | cons c rest =>
          have hc := hrest c rfl
          simp only [startsParam, Bool.or_eq_false_iff] at hc
          obtain ⟨hdigit, hother⟩ := hc
          have hne : ∀ d ∈ (['\'', '#', '+', '-', 'v', 'V'] : List Character),
              c ≠ d := by
            rintro d hd rfl
            rw [List.contains_iff_mem.mpr hd] at hother
            cases hother
          simp [scanParam, hdigit, hne]
  | unsigned hds =>
      cases w with
      | nil => exact absurd rfl hds.1
      | cons c ds =>
          have hc := hds.2 c (List.mem_cons_self ..)
          have htail : ∀ d ∈ ds, d.isDigit = true := fun d hd =>
            hds.2 d (List.mem_cons_of_mem c hd)
          obtain ⟨hplus, hminus⟩ := isDigit_ne_sign hc
          simp only [scanParam, List.cons_append, hc, or_true, if_true,
            takeWhile_append_stops htail hstops,
            pass_append_stops htail hstops, Bool.not_true,
            Bool.false_eq_true, and_false, if_false, signedValue,
            hplus, hminus, List.length_cons]
          simp only [reduceCtorEq, if_false, Except.ok.injEq,
            Prod.mk.injEq, true_and, Place.mk.injEq, and_true]
          omega
  | @plus ds hds =>
      simp only [scanParam, List.cons_append, true_or, if_true,
        takeWhile_append_stops hds.2 hstops,
        pass_append_stops hds.2 hstops, hds.1, false_and, if_false,
        signedValue, List.length_cons]
      simp only [reduceCtorEq, if_false, Except.ok.injEq,
        Prod.mk.injEq, Place.mk.injEq, and_true]
      exact ⟨rfl, by omega⟩
  | @minus ds hds =>
      simp only [scanParam, List.cons_append, true_or, or_true, if_true,
        takeWhile_append_stops hds.2 hstops,
        pass_append_stops hds.2 hstops, hds.1, false_and, if_false,
        signedValue, List.length_cons]
      simp only [reduceCtorEq, if_false, Except.ok.injEq,
        Prod.mk.injEq, Place.mk.injEq, and_true]
      exact ⟨trivial, by omega⟩
  | character c => rfl
  | nextArgument h => rcases h with rfl | rfl <;> rfl
  | remaining => rfl

/-- What is read was spelled. -/
theorem spelling_of_scanParam {p q : Place} {source? : Option ParamSource}
    (h : scanParam p = .ok (source?, q)) :
    ∃ w, p.Over w q ∧ (source?.getD .omitted).Spelling w
      ∧ source? ≠ some .omitted := by
  obtain ⟨o, ahead⟩ := p
  cases ahead with
  | nil =>
      cases h
      exact ⟨[], .nil _, .omitted, by simp⟩
  | cons c t =>
      simp only [scanParam] at h
      split at h
      · next hc =>
        split at h
        · cases h
        · next hdigits =>
          cases h
          refine ⟨c :: t.takeWhile Character.isDigit, ?_, ?_, by simp⟩
          · have hover := Place.over_pass ⟨o + 1, t⟩ Character.isDigit
            have hoffset : (Place.pass ⟨o + 1, t⟩ Character.isDigit).offset
                = o + 1 + (t.takeWhile Character.isDigit).length := hover.2
            refine ⟨congrArg (c :: ·) hover.1, ?_⟩
            rw [hoffset, List.length_cons]
            show _ = o + _
            omega
          · have hall : ∀ d ∈ t.takeWhile Character.isDigit,
                d.isDigit = true := fun _ => List.mem_takeWhile_imp
            show (ParamSource.integer _).Spelling _
            unfold signedValue
            split
            · next hminus =>
              subst hminus
              refine .minus ⟨fun hnil => hdigits ⟨hnil, rfl⟩, hall⟩
            · next hminus =>
              split
              · next hplus =>
                subst hplus
                refine .plus ⟨fun hnil => hdigits ⟨hnil, rfl⟩, hall⟩
              · next hplus =>
                have hdigit : c.isDigit = true := by
                  rcases hc with rfl | rfl | hc
                  · exact absurd rfl hplus
                  · exact absurd rfl hminus
                  · exact hc
                refine .unsigned ⟨List.cons_ne_nil _ _, ?_⟩
                intro d hd
                rcases List.mem_cons.mp hd with rfl | hd
                · exact hdigit
                · exact hall d hd
      · split at h
        · next hquote =>
          subst hquote
          split at h
          · cases h
          · next d rest =>
            cases h
            exact ⟨['\'', d], ⟨rfl, rfl⟩, .character d, by simp⟩
        · split at h
          · next hv =>
            cases h
            exact ⟨[c], ⟨rfl, rfl⟩, .nextArgument hv, by simp⟩
          · split at h
            · next hhash =>
              subst hhash
              cases h
              exact ⟨['#'], ⟨rfl, rfl⟩, .remaining, by simp⟩
            · cases h
              exact ⟨[], .nil _, .omitted, by simp⟩

-- ===================================================== parameter lists

/-- A text that goes on with neither a parameter nor a comma. -/
def EndsParams (t : Text) : Prop :=
  Stops startsParam t ∧ Stops (· == ',') t

/-- A slot with a comma behind it. -/
theorem scanParams_comma {afterComma : Bool} {p q : Place}
    {source? : Option ParamSource} {rest : Text} {more : List Param}
    {r : Place} (h : scanParam p = .ok (source?, q))
    (hq : q.ahead = .scalar ',' :: rest)
    (hmore : scanParams true ⟨q.offset + 1, rest⟩ = .ok (more, r)) :
    scanParams afterComma p
      = .ok (⟨source?.getD .omitted, p.offset⟩ :: more, r) := by
  rw [scanParams]
  split
  · next he => rw [h] at he; cases he
  · next he =>
    rw [h] at he
    cases he
    split
    · next rest' hrest' =>
      rw [hq] at hrest'
      cases hrest'
      rw [hmore]
    · next hne => exact absurd hq (hne rest)

/-- An empty last slot. -/
theorem scanParams_none {afterComma : Bool} {p q : Place}
    (h : scanParam p = .ok (none, q)) (hq : Stops (· == ',') q.ahead) :
    scanParams afterComma p
      = .ok (if afterComma then [⟨.omitted, p.offset⟩] else [], q) := by
  rw [scanParams]
  split
  · next he => rw [h] at he; cases he
  · next he =>
    rw [h] at he
    cases he
    split
    · next rest hrest =>
      exact absurd (hq ',' (congrArg List.head? hrest)) (by decide)
    · rfl

/-- A last slot with a parameter. -/
theorem scanParams_some {afterComma : Bool} {p q : Place}
    {source : ParamSource} (h : scanParam p = .ok (some source, q))
    (hq : EndsParams q.ahead) :
    scanParams afterComma p = .ok ([⟨source, p.offset⟩], q) := by
  rw [scanParams]
  split
  · next he => rw [h] at he; cases he
  · next he =>
    rw [h] at he
    cases he
    split
    · next rest hrest =>
      exact absurd (hq.2 ',' (congrArg List.head? hrest)) (by decide)
    · simp only
      split
      · next c hc =>
        rw [if_neg (by simp [hq.1 c hc])]
      · rfl

/-- Spelled slots are read, behind a comma or where something is
written. -/
theorem scanParams_of_slotsSpelling {o : Nat} {params : List Param}
    {w rest : Text} (h : SlotsSpelling o params w)
    (hrest : EndsParams rest) {afterComma : Bool}
    (hsome : afterComma = true ∨ w ≠ []) :
    scanParams afterComma ⟨o, w ++ rest⟩
      = .ok (params, ⟨o + w.length, rest⟩) := by
  induction h generalizing afterComma with
  | @last o source w hsource =>
      have hread := scanParam_of_spelling (o := o) hsource hrest.1
      by_cases homitted : source = .omitted
      · have hcomma : afterComma = true := by
          rcases hsome with h | h
          · exact h
          · exact absurd (hsource.eq_nil_iff.mpr homitted) h
        rw [if_pos homitted] at hread
        rw [scanParams_none hread hrest.2, hcomma, homitted]
        rfl
      · rw [if_neg homitted] at hread
        exact scanParams_some hread hrest
  | @more o source w tail params hsource hslots ih =>
      have hstops : Stops startsParam (',' :: (tail ++ rest)) := by
        intro c hc
        rw [← Option.some.inj hc]
        decide
      have hread := scanParam_of_spelling (o := o) hsource hstops
      have hlast : (if source = .omitted then none
          else some source).getD .omitted = source := by
        split
        · next h => exact h.symm
        · rfl
      rw [List.append_assoc, List.cons_append,
        scanParams_comma hread rfl (ih (.inl rfl)), hlast]
      simp only [List.length_append, List.length_cons]
      congr 3
      omega

/-- Reading parameters comes to the slots that were spelled, or to none
where nothing was. -/
theorem spelling_of_scanParams_aux {afterComma : Bool} {p q : Place}
    {params : List Param} (h : scanParams afterComma p = .ok (params, q)) :
    ∃ w, p.Over w q
      ∧ (SlotsSpelling p.offset params w ∧ (afterComma = false → w ≠ [])
        ∨ afterComma = false ∧ params = [] ∧ w = []) := by
  fun_induction scanParams afterComma p generalizing params q with
  | case1 => cases h
  | case2 => cases h
  | case3 _ p source? q' hp rest hq more r hr ih =>
      cases h
      obtain ⟨w, hover, hspelling, -⟩ := spelling_of_scanParam hp
      obtain ⟨v, hover', hslots⟩ := ih hr
      have hslots : SlotsSpelling (q'.offset + 1) more v := by
        rcases hslots with ⟨hslots, -⟩ | ⟨hfalse, -⟩
        · exact hslots
        · cases hfalse
      have hcomma : Place.Over q' [','] ⟨q'.offset + 1, rest⟩ :=
        ⟨hq, rfl⟩
      refine ⟨w ++ .scalar ',' :: v, ?_, .inl ⟨?_, fun _ => by simp⟩⟩
      · have := (hover.trans hcomma).trans hover'
        rwa [List.append_assoc] at this
      · rw [hover.2] at hslots
        exact .more hspelling hslots
  | case4 afterComma p _ hp =>
      cases h
      obtain ⟨w, hover, hspelling, -⟩ := spelling_of_scanParam hp
      have hw : w = [] := hspelling.eq_nil_iff.mpr rfl
      subst hw
      refine ⟨[], hover, ?_⟩
      cases afterComma with
      | true => exact .inl ⟨.last .omitted, by simp⟩
      | false => exact .inr ⟨rfl, rfl, rfl⟩
  | case5 => cases h
  | case6 _ p q source hp | case7 _ p q source hp =>
      cases h
      obtain ⟨w, hover, hspelling, hne⟩ := spelling_of_scanParam hp
      refine ⟨w, hover, .inl ⟨.last hspelling, fun _ hw => hne ?_⟩⟩
      exact congrArg some (hspelling.eq_nil_iff.mp hw)

/-- A spelled parameter list is read. -/
theorem scanParams_of_spelling {o : Nat} {params : List Param}
    {w rest : Text} (h : ParamsSpelling o params w)
    (hrest : EndsParams rest) :
    scanParams false ⟨o, w ++ rest⟩
      = .ok (params, ⟨o + w.length, rest⟩) := by
  cases h with
  | none =>
      have hread := scanParam_of_spelling (o := o) .omitted hrest.1
      exact scanParams_none hread hrest.2
  | some h hw => exact scanParams_of_slotsSpelling h hrest (.inr hw)

/-- A parameter list that is read was spelled. -/
theorem spelling_of_scanParams {p q : Place} {params : List Param}
    (h : scanParams false p = .ok (params, q)) :
    ∃ w, p.Over w q ∧ ParamsSpelling p.offset params w := by
  obtain ⟨w, hover, ⟨hslots, hw⟩ | ⟨-, rfl, rfl⟩⟩ :=
    spelling_of_scanParams_aux h
  · exact ⟨w, hover, .some hslots (hw rfl)⟩
  · exact ⟨[], hover, .none⟩

-- =========================================================== modifiers

/-- A text that does not go on with a modifier. -/
def EndsModifiers (t : Text) : Prop :=
  Stops (fun c => c == ':' || c == '@') t

/-- The two modifiers in either order, or as many as there are. -/
theorem modifiers_spellings {m : Modifiers} {w : Text}
    (h : w.Perm m.text) :
    w = m.text ∨ m = ⟨true, true⟩ ∧ w = [.scalar '@', .scalar ':'] := by
  obtain ⟨colon, atSign⟩ := m
  cases colon <;> cases atSign
  · exact .inl (List.perm_nil.mp h)
  · exact .inl (List.perm_singleton.mp h)
  · exact .inl (List.perm_singleton.mp h)
  · have hlen : w.length = 2 := h.length_eq
    match w, hlen with
    | [a, b], _ =>
      have ha : a ∈ ([':', '@'] : Text) :=
        h.mem_iff.mp (List.mem_cons_self ..)
      have hb : b ∈ ([':', '@'] : Text) :=
        h.mem_iff.mp (List.mem_cons_of_mem _ (List.mem_cons_self ..))
      have hne : a ≠ b := by
        have hnodup : ([a, b] : Text).Nodup :=
          h.nodup_iff.mpr (by decide)
        simpa using hnodup
      simp only [List.mem_cons, List.not_mem_nil, or_false] at ha hb
      rcases ha with rfl | rfl
      · rcases hb with rfl | rfl
        · exact absurd rfl hne
        · exact .inl rfl
      · rcases hb with rfl | rfl
        · exact .inr ⟨rfl, rfl⟩
        · exact absurd rfl hne

/-- Spelled modifiers are read. -/
theorem scanModifiers_of_spelling {m : Modifiers} {w rest : Text}
    {o : Nat} (h : w.Perm m.text) (hrest : EndsModifiers rest) :
    scanModifiers {} o (w ++ rest) = .ok (m, ⟨o + w.length, rest⟩) := by
  have hend (found : Modifiers) (n : Nat) :
      scanModifiers found n rest = .ok (found, ⟨n, rest⟩) := by
    cases rest with
    | nil => rfl
    | cons c rest =>
        have hc := hrest c rfl
        simp only [Bool.or_eq_false_iff, beq_eq_false_iff_ne] at hc
        rw [scanModifiers]
        · exact fun t ht => hc.1 (List.cons.inj ht).1
        · exact fun t ht => hc.2 (List.cons.inj ht).1
  rcases modifiers_spellings h with rfl | ⟨rfl, rfl⟩
  · obtain ⟨colon, atSign⟩ := m
    cases colon <;> cases atSign
    · exact hend {} o
    · exact hend ⟨false, true⟩ (o + 1)
    · exact hend ⟨true, false⟩ (o + 1)
    · exact hend ⟨true, true⟩ (o + 1 + 1)
  · exact hend ⟨true, true⟩ (o + 1 + 1)

/-- Reading on from modifiers already found adds those that stand
there. -/
theorem spelling_of_scanModifiers_aux {found m : Modifiers} {o : Nat}
    {t : Text} {q : Place} (h : scanModifiers found o t = .ok (m, q)) :
    ∃ w, Place.Over ⟨o, t⟩ w q ∧ (found.text ++ w).Perm m.text := by
  fun_induction scanModifiers found o t with
  | case1 | case3 => cases h
  | case2 found o t hcolon ih =>
      obtain ⟨w, hover, hperm⟩ := ih h
      have hstep : Place.Over ⟨o, ':' :: t⟩ [':'] ⟨o + 1, t⟩ := ⟨rfl, rfl⟩
      refine ⟨':' :: w, hstep.trans hover, .trans ?_ hperm⟩
      have : found.text = if found.atSign then [.scalar '@'] else [] := by
        simp [Modifiers.text, hcolon]
      rw [this]
      simp only [Modifiers.text, if_true, List.cons_append,
        List.nil_append]
      exact List.perm_middle
  | case4 found o t hat ih =>
      obtain ⟨w, hover, hperm⟩ := ih h
      have hstep : Place.Over ⟨o, '@' :: t⟩ ['@'] ⟨o + 1, t⟩ := ⟨rfl, rfl⟩
      refine ⟨'@' :: w, hstep.trans hover, .trans ?_ hperm⟩
      have : found.text = if found.colon then [.scalar ':'] else [] := by
        simp [Modifiers.text, hat]
      rw [this]
      simp [Modifiers.text]
  | case5 found o t =>
      cases h
      exact ⟨[], .nil _, by rw [List.append_nil]⟩

/-- Modifiers that are read were spelled. -/
theorem spelling_of_scanModifiers {m : Modifiers} {o : Nat} {t : Text}
    {q : Place} (h : scanModifiers {} o t = .ok (m, q)) :
    ∃ w, Place.Over ⟨o, t⟩ w q ∧ w.Perm m.text :=
  spelling_of_scanModifiers_aux h

end TildeFormat
