/-
A pass limit cuts a loop short and does nothing else. No pass can tell
what the limit is, so the loop with the smaller limit makes the passes of
the other one from the first on, until the other one ends or its own
limit does. It ends without a failure if they did: what stops a loop with
no limit from going on for ever is an error, and no loop it stops is one
that succeeded.
-/
import TildeFormat.Proofs.Render.Spreading

namespace TildeFormat

-- ======================================================= shortened loops

/-- What a loop that finishes becomes with at most `n` passes: it still
finishes, what it puts out is the start of what it put out, and if it
made no more than `n` passes it is the same. -/
structure Passes.Shortens (n : Nat) (full short : Passes) : Prop where
  finishes : ∃ source, short.run.ending = .finished source
  text : short.run.text <+: full.run.text
  whole : full.count ≤ n → short = full

section

variable {n : Nat} {forced : Bool} {limit : Option Nat}

theorem Passes.shortens_self {passes : Passes} {last : Cursor}
    (h : passes.run.ending = .finished last) : passes.Shortens n passes :=
  ⟨⟨last, h⟩, List.prefix_rfl, fun _ => rfl⟩

/-- With no pass allowed nothing is put out. -/
theorem Passes.shortens_none {full : Passes} (h : 1 ≤ full.count)
    (source : Cursor) : full.Shortens 0 (.none source) :=
  ⟨⟨source, rfl⟩, List.nil_prefix, fun hcount => absurd h (by omega)⟩

/-- The first pass is the same, and it takes one pass off the limit. -/
theorem Passes.Shortens.after {full short : Passes}
    (h : full.Shortens n short) (pass : Run) :
    (Passes.after pass full).Shortens (n + 1) (.after pass short) where
  finishes := h.finishes
  text := (List.prefix_append_right_inj pass.text).mpr h.text
  whole hcount := by rw [h.whole (Nat.le_of_succ_le_succ hcount)]

/-- After a pass both limits are one less. -/
theorem le_pred_limit (hle : ∀ m, limit = some m → n + 1 ≤ m) (m : Nat)
    (hm : limit.map (· - 1) = some m) : n ≤ m := by
  obtain ⟨k, hk, rfl⟩ := Option.map_eq_some_iff.mp hm
  exact Nat.le_sub_one_of_lt (hle k hk)

theorem one_le_count_overElements {body : Cursor → Run}
    {stuck : RenderError} {source : Cursor}
    (h : ¬NoPass forced limit source) :
    1 ≤ (overElements body stuck forced limit source).count := by
  rw [overElements_pass h]
  split
  · exact Nat.le_refl 1
  · exact Nat.le_refl 1
  · split
    · exact Nat.le_refl 1
    · split
      · exact Nat.le_refl 1
      · exact Nat.succ_pos _

/-- A loop over elements that finishes, with a smaller limit. -/
theorem overElements_shortens (body : Cursor → Run) (stuck : RenderError)
    {source last : Cursor} (hle : ∀ m, limit = some m → n ≤ m)
    (h : (overElements body stuck forced limit source).run.ending
      = .finished last) :
    (overElements body stuck forced limit source).Shortens n
      (overElements body stuck forced (some n) source) := by
  induction forced, limit, source using overElements_induction body
    generalizing n with
  | h forced limit source ih =>
      by_cases hstop : NoPass forced limit source
      · have hstop' : NoPass forced (some n) source := by
          rcases hstop with hzero | hempty
          · exact .inl (congrArg some (Nat.le_zero.mp (hle 0 hzero)))
          · exact .inr hempty
        rw [overElements_none hstop, overElements_none hstop']
        exact Passes.shortens_self rfl
      cases n with
      | zero =>
          rw [overElements_none (.inl rfl)]
          exact Passes.shortens_none (one_le_count_overElements hstop)
            source
      | succ n =>
          have hstop' : ¬NoPass forced (some (n + 1)) source := by
            rintro (hzero | hempty)
            · cases hzero
            · exact hstop (.inr hempty)
          rw [overElements_pass hstop] at h ⊢
          rw [overElements_pass hstop']
          cases hending : (body source).ending with
          | stopped why =>
              rw [hending] at h
              cases hending.symm.trans h
          | escaped wholeLoop next => exact Passes.shortens_self rfl
          | finished next =>
              simp only [hending, reduceCtorEq, false_and, if_false] at h ⊢
              split
              · exact Passes.shortens_self hending
              · next hmore =>
                rw [if_neg hmore] at h
                split
                · next hstuck =>
                  rw [if_pos hstuck] at h
                  cases h
                · next hgoes =>
                  rw [if_neg hgoes] at h
                  refine (ih next hstop hending (Bool.eq_false_iff.mpr hmore)
                    ?_ (le_pred_limit hle) h).after _
                  intro hlimit
                  exact Decidable.not_not.mp fun hstays =>
                    hgoes ⟨hlimit, hstays⟩

/-- A loop over sublists makes a pass if it may and has a sublist left, or
the pass is forced. -/
theorem one_le_count_overSublists {body : Nat → Cursor → Run}
    {open? : Value → Except RenderError (List Value)} {consumed : Nat}
    {items : List Value} (hlimit : limit ≠ some 0)
    (hitems : items = [] → forced = true) :
    1 ≤ (overSublists body open? forced limit consumed items).count := by
  cases items with
  | nil =>
      have hgo : ¬(limit = some 0 ∨ forced = false) := by
        rintro (hzero | hforced)
        · exact hlimit hzero
        · cases hforced.symm.trans (hitems rfl)
      rw [overSublists, if_neg hgo]
      simp only
      split <;> exact Nat.le_refl 1
  | cons v rest =>
      rw [overSublists, if_neg hlimit]
      split
      · exact Nat.le_refl 1
      · simp only
        split
        · exact Nat.le_refl 1
        · exact Nat.le_refl 1
        · exact Nat.succ_pos _
        · exact Nat.succ_pos _

/-- A loop over sublists that finishes, with a smaller limit. -/
theorem overSublists_shortens (body : Nat → Cursor → Run)
    (open? : Value → Except RenderError (List Value)) {consumed : Nat}
    {items : List Value} {last : Cursor}
    (hle : ∀ m, limit = some m → n ≤ m)
    (h : (overSublists body open? forced limit consumed items).run.ending
      = .finished last) :
    (overSublists body open? forced limit consumed items).Shortens n
      (overSublists body open? forced (some n) consumed items) := by
  induction items generalizing n forced limit consumed with
  | nil =>
      by_cases hstop : limit = some 0 ∨ forced = false
      · have hstop' : some n = some 0 ∨ forced = false :=
          hstop.imp_left fun hzero =>
            congrArg some (Nat.le_zero.mp (hle 0 hzero))
        rw [overSublists, if_pos hstop, overSublists, if_pos hstop']
        exact Passes.shortens_self rfl
      obtain ⟨hlimit, hforced⟩ := not_or.mp hstop
      cases n with
      | zero =>
          have hone : 1 ≤ (overSublists body open? forced limit consumed
              []).count :=
            one_le_count_overSublists hlimit fun _ =>
              eq_true_of_ne_false hforced
          rw [show overSublists body open? forced (some 0) consumed []
              = .none ⟨consumed, []⟩ from if_pos (.inl rfl)]
          exact Passes.shortens_none hone _
      | succ n =>
          have hstop' : ¬(some (n + 1) = some 0 ∨ forced = false) := by
            rintro (hzero | hfalse)
            · cases hzero
            · exact hforced hfalse
          rw [overSublists, if_neg hstop] at h ⊢
          rw [overSublists, if_neg hstop']
          exact Passes.shortens_self h
  | cons v rest ih =>
      by_cases hstop : limit = some 0
      · have hzero : n = 0 := Nat.le_zero.mp (hle 0 hstop)
        subst hstop hzero
        exact Passes.shortens_self h
      cases n with
      | zero =>
          have hone : 1 ≤ (overSublists body open? forced limit consumed
              (v :: rest)).count :=
            one_le_count_overSublists hstop fun hnil =>
              absurd hnil (List.cons_ne_nil _ _)
          rw [show overSublists body open? forced (some 0) consumed
              (v :: rest) = .none ⟨consumed, v :: rest⟩ from if_pos rfl]
          exact Passes.shortens_none hone _
      | succ n =>
          rw [overSublists, if_neg hstop] at h ⊢
          rw [overSublists, if_neg (show some (n + 1) ≠ some 0 by simp)]
          cases hopen : open? v with
          | error e =>
              rw [hopen] at h
              cases h
          | ok items =>
              simp only [hopen, Option.map_some, Nat.add_sub_cancel] at h ⊢
              cases hending : (body rest.length (.ofList items)).ending with
              | stopped why =>
                  rw [hending] at h
                  cases hending.symm.trans h
              | finished next =>
                  rw [hending] at h
                  exact (ih (le_pred_limit hle) h).after _
              | escaped wholeLoop next =>
                  rw [hending] at h
                  cases wholeLoop with
                  | true => exact Passes.shortens_self rfl
                  | false => exact (ih (le_pred_limit hle) h).after _

end

-- ============================================================ iterations

theorem iterate_shortens (body : Construct → Cursor → Run)
    (atLeastOnce : Bool) (clause : Clause) {limit : Option Nat} {n : Nat}
    {source last : Cursor} (hle : ∀ m, limit = some m → n ≤ m)
    (h : (iterate body atLeastOnce clause (limit.map Int.ofNat)
      source).run.ending = .finished last) :
    (iterate body atLeastOnce clause (limit.map Int.ofNat) source).Shortens
      n (iterate body atLeastOnce clause (some n) source) := by
  have hnat : (limit.map Int.ofNat).map Int.toNat = limit := by
    cases limit <;> rfl
  unfold iterate at h ⊢
  rw [hnat] at h ⊢
  split at h
  · next hcolon =>
    rw [if_pos hcolon, if_pos hcolon]
    exact overSublists_shortens _ _ hle h
  · next hcolon =>
    rw [if_neg hcolon, if_neg hcolon]
    exact overElements_shortens _ _ hle h

/-- The clause with a pass limit written out, or with none. -/
def Clause.withLimit (clause : Clause) (limit : Option Nat) : Clause :=
  let param (n : Nat) : Param := ⟨.integer n, clause.position + 1⟩
  { clause with params := (limit.map param).toList }

/-- The limit that is written is the one the loop has. -/
theorem resolveParams_withLimit (settings : Settings) (clause : Clause)
    (limit : Option Nat) (cursor : Cursor) :
    ∃ values, resolveParams Shape.iteration.name
        (clause.withLimit limit).params
        ((Registry.builtin settings).slots Shape.iteration.opener) cursor
          = .ok (values, cursor)
      ∧ passLimit? values = .ok (limit.map Int.ofNat) := by
  have hslots : (Registry.builtin settings).slots Shape.iteration.opener
      = Registry.passesSlots := rfl
  rw [hslots]
  cases limit with
  | none => exact ⟨[.absent], rfl, rfl⟩
  | some n => exact ⟨[.integer n], rfl, rfl⟩

/-- Nothing else about the start of the loop depends on the limit. -/
theorem loopStart_withLimit (settings : Settings) (clause : Clause)
    (cursor : Cursor) :
    ∃ start : Except Stop LoopStart, ∀ limit,
      loopStart (.builtin settings) (clause.withLimit limit) cursor
        = start.map fun start =>
          { start with limit := limit.map Int.ofNat } := by
  refine ⟨loopStart (.builtin settings) (clause.withLimit none) cursor,
    fun limit => ?_⟩
  obtain ⟨values, hvalues, hlimit⟩ :=
    resolveParams_withLimit settings clause limit cursor
  obtain ⟨values', hvalues', hnone⟩ :=
    resolveParams_withLimit settings clause none cursor
  have hat (limit : Option Nat) :
      (clause.withLimit limit).modifiers.atSign
        = clause.modifiers.atSign := rfl
  have hposition (limit : Option Nat) :
      (clause.withLimit limit).position = clause.position := rfl
  simp only [loopStart, hvalues, hlimit, hvalues', hnone, hat, hposition]
  split
  · rfl
  · cases cursor.take Shape.iteration.name clause.position with
    | error e => rfl
    | ok taken =>
        simp only
        cases openList clause.position taken.1 <;> rfl

/-- A loop that finishes is noted with the number of its passes. -/
theorem Passes.events_toRun {passes : Passes} {last : Cursor}
    (h : passes.run.ending = .finished last) (position : Nat)
    (resume : Cursor → Cursor) :
    (passes.toRun position resume).events
      = passes.run.events ++ [.looped position passes.count] := by
  rw [toRun, h]

/-- Whatever its limit, an iteration stops before its loop, or it comes to
what the loop over the same source comes to. -/
theorem render_withLimit (settings : Settings) (body : List Node)
    (atLeastOnce : Bool) (clause : Clause) (arguments : List Value) :
    let run (limit : Option Nat) : Run :=
      render (.builtin settings)
        [.iteration body atLeastOnce (clause.withLimit limit)] arguments
    let loop (source : Cursor) (limit : Option Nat) : Passes :=
      iterate (fun construct =>
          renderAll (.builtin settings) [construct] body)
        atLeastOnce clause (limit.map Int.ofNat) source
    (∃ why, ∀ limit, (run limit).ending = .stopped why)
      ∨ ∃ source resume, ∀ limit, run limit
        = ((loop source limit).toRun clause.position resume).noting
          [.looping clause.position (limit.map Int.ofNat)] := by
  intro run loop
  obtain ⟨start?, hstart⟩ :=
    loopStart_withLimit settings clause (.ofList arguments)
  have hrun (limit : Option Nat) :=
    renderIteration_cases (.builtin settings)
      (fun construct => renderAll (.builtin settings) [construct] body)
      atLeastOnce (clause.withLimit limit) (.ofList arguments)
  have hnode (limit : Option Nat) : run limit
      = renderIteration (.builtin settings)
        (fun construct => renderAll (.builtin settings) [construct] body)
        atLeastOnce (clause.withLimit limit) (.ofList arguments) :=
    renderAll_singleton _ _
  simp only [hstart, ← hnode] at hrun
  cases start? with
  | error why =>
      refine .inl ⟨why, fun limit => ?_⟩
      obtain ⟨events, heq⟩ := hrun limit
      rw [heq]
  | ok start => exact .inr ⟨start.source, start.resume, hrun⟩

/-- A pass limit only cuts an iteration short. If it comes to a text with
some limit or with none, it comes with no larger one to the start of this
text, and to all of it if the limit is no less than the number of passes
it made. -/
theorem render_iteration_limited (settings : Settings) (body : List Node)
    (atLeastOnce : Bool) (clause : Clause) (arguments : List Value)
    {limit : Option Nat} {n : Nat} (hle : ∀ m, limit = some m → n ≤ m)
    {t : Text} :
    let run (limit : Option Nat) : Run :=
      render (.builtin settings)
        [.iteration body atLeastOnce (clause.withLimit limit)] arguments
    (run limit).result = .ok t →
      (∃ s, (run (some n)).result = .ok s ∧ s <+: t)
        ∧ ∃ passes, (run limit).events.getLast?
            = some (.looped clause.position passes)
          ∧ (passes ≤ n → (run (some n)).result = .ok t) := by
  intro run hok
  obtain ⟨-, last, hfinished⟩ := Run.result_eq_ok_iff.mp hok
  rcases render_withLimit settings body atLeastOnce clause arguments with
    ⟨why, hstopped⟩ | ⟨source, resume, hruns⟩
  · cases (hstopped limit).symm.trans hfinished
  · let loop (limit : Option Nat) : Passes :=
      iterate (fun construct =>
          renderAll (.builtin settings) [construct] body)
        atLeastOnce clause (limit.map Int.ofNat) source
    have hloop (limit : Option Nat) : run limit
        = ((loop limit).toRun clause.position resume).noting
          [.looping clause.position (limit.map Int.ofNat)] := hruns limit
    have hresult (limit : Option Nat) :
        (run limit).result = (loop limit).run.result := by
      rw [hloop, Run.result_noting, Passes.result_toRun]
    obtain ⟨htext, last, hends⟩ :=
      Run.result_eq_ok_iff.mp ((hresult limit).symm.trans hok)
    obtain ⟨⟨left, hfinishes⟩, hprefix, hwhole⟩ :=
      iterate_shortens _ _ _ hle hends
    refine ⟨⟨_, (hresult (some n)).trans
      (Run.result_eq_ok_iff.mpr ⟨rfl, left, hfinishes⟩),
      htext ▸ hprefix⟩, (loop limit).count, ?_, fun hcount => ?_⟩
    · rw [hloop limit, Run.noting, Passes.events_toRun hends,
        ← List.append_assoc, List.getLast?_concat]
    · rw [hresult, ← hok, hresult]
      exact congrArg (fun passes => passes.run.result) (hwhole hcount)

/-- Three sublists and an escape that leaves the loop in the last pass:
two passes put out the separator as well, and three are enough. -/
theorem render_iteration_limited_lastSublist :
    let body : List Node :=
      [ .simple .human ⟨[], {}, 3⟩, .escape 1 ⟨[], ⟨true, false⟩, 5⟩,
        .literal (word ", ") 8 ]
    let run (limit : Option Nat) : Run :=
      render .standard
        [.iteration body false
          (Clause.withLimit ⟨[], ⟨true, false⟩, 0⟩ limit)]
        [.list [.list [.int 1], .list [.int 2], .list [.int 3]]]
    let t := word "1, 2, 3"
    (∀ m, some 5 = some m → 2 ≤ m) ∧ (∀ m, some 5 = some m → 3 ≤ m)
      ∧ (run (some 5)).result = .ok t
      ∧ (run (some 2)).result = .ok (word "1, 2, ")
      ∧ (∃ s, (run (some 2)).result = .ok s ∧ s <+: t)
      ∧ (run (some 5)).events.getLast? = some (.looped 0 3)
      ∧ (run (some 3)).result = .ok t := by
  intro body run t
  have htwo : ∀ m, some 5 = some m → 2 ≤ m := by
    rintro m ⟨⟩
    decide
  have hthree : ∀ m, some 5 = some m → 3 ≤ m := by
    rintro m ⟨⟩
    decide
  have hok : (run (some 5)).result = .ok t := by with_unfolding_all rfl
  have hlast : (run (some 5)).events.getLast? = some (.looped 0 3) := by
    with_unfolding_all rfl
  obtain ⟨hstart, -⟩ :=
    render_iteration_limited .standard body false _ _ htwo hok
  obtain ⟨-, passes, hpasses, hwhole⟩ :=
    render_iteration_limited .standard body false _ _ hthree hok
  cases hlast.symm.trans hpasses
  exact ⟨htwo, hthree, hok, by with_unfolding_all rfl, hstart, hlast,
    hwhole (Nat.le_refl 3)⟩

end TildeFormat
