/-
The splits of patterns. Every split is of the text itself: its two parts,
put together, are the text (`Pattern.Sound`), and the parts of a rule with
what is behind them as well.

Which split a rule takes can hang on what stands behind it. It does not
where what is behind every split but the first begins with a character
that the rest of the rule cannot start with: then the rule takes the first
split or none (`Pattern.First`, `Rule.match?_first`). Greedy patterns are
like this as a rule, for a split that is not the longest leaves a piece of
what it could have taken.
-/
import TildeFormat.Highlight.Pattern
import TildeFormat.Proofs.Text.Run

namespace TildeFormat

namespace Pattern

variable {p q : Pattern} {test : Character → Bool} {t rest : Text}

-- ============================================================ soundness

/-- A pattern splits a text into a beginning and the rest. -/
def Sound (p : Pattern) : Prop := ∀ t, ∀ s ∈ p t, s.1 ++ s.2 = t

/-- What a pattern takes and what it leaves is the text. One character, or
none. -/
theorem sound_char (test : Character → Bool) : (char test).Sound := by
  intro t s hs
  cases t with
  | nil => cases hs
  | cons c t =>
      simp only [char] at hs
      split at hs
      · rw [List.mem_singleton.mp hs]
        rfl
      · cases hs

/-- Several characters, greedily, or fewer when the pattern behind needs
them. -/
theorem sound_many (test : Character → Bool) : (many test).Sound := by
  intro t
  induction t with
  | nil =>
      intro s hs
      rw [List.mem_singleton.mp hs]
      rfl
  | cons c t ih =>
      intro s hs
      simp only [many] at hs
      split at hs
      · rcases List.mem_append.mp hs with hs | hs
        · obtain ⟨r, hr, rfl⟩ := List.mem_map.mp hs
          exact congrArg (c :: ·) (ih r hr)
        · rw [List.mem_singleton.mp hs]
          rfl
      · rw [List.mem_singleton.mp hs]
        rfl

/-- One pattern and then the other, on what the first one left. -/
theorem Sound.seq (hp : p.Sound) (hq : q.Sound) : (seq p q).Sound := by
  intro t s hs
  obtain ⟨u, hu, hs⟩ := List.mem_flatMap.mp hs
  obtain ⟨r, hr, rfl⟩ := List.mem_map.mp hs
  rw [List.append_assoc, hq u.2 r hr, hp t u hu]

/-- One pattern or the other. -/
theorem Sound.alt (hp : p.Sound) (hq : q.Sound) : (alt p q).Sound := by
  intro t s hs
  rcases List.mem_append.mp hs with hs | hs
  · exact hp t s hs
  · exact hq t s hs

theorem Sound.optional (hp : p.Sound) : (optional p).Sound := by
  intro t s hs
  rcases List.mem_append.mp hs with hs | hs
  · exact hp t s hs
  · rw [List.mem_singleton.mp hs]
    rfl

theorem sound_some (test : Character → Bool) : (some test).Sound :=
  (sound_char test).seq (sound_many test)

theorem Sound.star (hp : p.Sound) : (star p).Sound := by
  intro t
  induction hlength : t.length using Nat.strongRecOn generalizing t
    with
  | ind n ih =>
      intro s hs
      rw [Pattern.star] at hs
      rcases List.mem_append.mp hs with hs | hs
      · obtain ⟨u, hu, hs⟩ := List.mem_flatMap.mp hs
        split at hs
        · next hshorter =>
          obtain ⟨r, hr, rfl⟩ := List.mem_map.mp hs
          rw [List.append_assoc, ih _ (hlength ▸ hshorter) _ rfl r hr,
            hp t u hu]
        · cases hs
      · rw [List.mem_singleton.mp hs]
        rfl

-- ========================================================= first splits

/-- The text begins with a character that passes. -/
def Begins (test : Character → Bool) (t : Text) : Prop :=
  ∃ c rest, t = c :: rest ∧ test c = true

/-- A split is the first one, and what is behind any other begins with a
character that passes. -/
def First (p : Pattern) (test : Character → Bool) (t : Text)
    (s : Text × Text) : Prop :=
  ∃ others, p t = s :: others ∧ ∀ r ∈ others, Begins test r.2

/-- A weaker test begins what a stronger one does. -/
theorem Begins.imp {other : Character → Bool} (h : Begins test t)
    (himp : ∀ c, test c = true → other c = true) : Begins other t := by
  obtain ⟨c, rest, rfl, hc⟩ := h
  exact ⟨c, rest, rfl, himp c hc⟩

/-- And it has the same first split. -/
theorem First.imp {other : Character → Bool} {s : Text × Text}
    (h : p.First test t s) (himp : ∀ c, test c = true → other c = true) :
    p.First other t s := by
  obtain ⟨others, hp, hothers⟩ := h
  exact ⟨others, hp, fun r hr => (hothers r hr).imp himp⟩

/-- The only split is the first one. -/
theorem first_of_eq {s : Text × Text} (h : p t = [s])
    (test : Character → Bool) : p.First test t s :=
  ⟨[], h, List.forall_mem_nil _⟩

/-- A run of characters that pass is taken as a whole first. -/
theorem first_many (ht : ∀ c ∈ t, test c = true)
    (hrest : Stops test rest) :
    (many test).First test (t ++ rest) (t, rest) := by
  induction t with
  | nil =>
      apply first_of_eq
      cases rest with
      | nil => rfl
      | cons c rest => simp [many, hrest c rfl]
  | cons c t ih =>
      obtain ⟨hc, ht⟩ := List.forall_mem_cons.mp ht
      obtain ⟨others, hmany, hothers⟩ := ih ht
      refine ⟨others.map (fun s => (c :: s.1, s.2))
        ++ [([], c :: (t ++ rest))], ?_, ?_⟩
      · simp [many, hc, hmany]
      · intro r hr
        rcases List.mem_append.mp hr with hr | hr
        · obtain ⟨s, hs, rfl⟩ := List.mem_map.mp hr
          exact hothers s hs
        · rw [List.mem_singleton.mp hr]
          exact ⟨c, t ++ rest, rfl, hc⟩

/-- The first split of a repetition is the longest. -/
theorem first_many_takeWhile (test : Character → Bool) (t : Text) :
    (many test).First test t (t.takeWhile test, t.dropWhile test) := by
  have h := first_many (t := t.takeWhile test)
    (fun _ => List.mem_takeWhile_imp)
    (stops_dropWhile test t)
  rwa [List.takeWhile_append_dropWhile] at h

/-- Where a run does not start, nothing is taken. -/
theorem many_of_stops (h : Stops test t) : many test t = [([], t)] := by
  cases t with
  | nil => rfl
  | cons c t => simp [many, h c rfl]

/-- Behind the first split another pattern takes its first split, if it
passes over what the other splits of the first one leave. -/
theorem First.seq {behind : Character → Bool} {s r : Text × Text}
    (hp : p.First test t s) (hq : q.First behind s.2 r)
    (hover : ∀ u, Begins test u → ∀ x ∈ q u, Begins behind x.2) :
    (Pattern.seq p q).First behind t (s.1 ++ r.1, r.2) := by
  obtain ⟨others, hp, hothers⟩ := hp
  obtain ⟨more, hq, hmore⟩ := hq
  refine ⟨more.map (fun x => (s.1 ++ x.1, x.2))
    ++ others.flatMap fun u => (q u.2).map fun x => (u.1 ++ x.1, x.2),
    ?_, ?_⟩
  · simp [Pattern.seq, hp, hq]
  · intro x hx
    rcases List.mem_append.mp hx with hx | hx
    · obtain ⟨y, hy, rfl⟩ := List.mem_map.mp hx
      exact hmore y hy
    · obtain ⟨u, hu, hx⟩ := List.mem_flatMap.mp hx
      obtain ⟨y, hy, rfl⟩ := List.mem_map.mp hx
      exact hover u.2 (hothers u hu) y hy

/-- At least one character: the whole run first. -/
theorem first_some (hne : t ≠ []) (ht : ∀ c ∈ t, test c = true)
    (hrest : Stops test rest) :
    (some test).First test (t ++ rest) (t, rest) := by
  cases t with
  | nil => exact absurd rfl hne
  | cons c t =>
      obtain ⟨hc, ht⟩ := List.forall_mem_cons.mp ht
      have hchar : (char test).First (fun _ => false) (c :: t ++ rest)
          ([c], t ++ rest) := by
        apply first_of_eq
        simp [char, hc]
      refine hchar.seq (first_many ht hrest) ?_
      rintro u ⟨d, rest, -, ⟨⟩⟩

/-- Where the second alternative has no split, those of the first are all
there are. -/
theorem First.alt_left {s : Text × Text} (h : p.First test t s)
    (hq : q t = []) : (Pattern.alt p q).First test t s := by
  obtain ⟨others, hp, hothers⟩ := h
  exact ⟨others, by simp [Pattern.alt, hp, hq], hothers⟩

/-- Where the first pattern does not match, the second one is tried. -/
theorem First.alt_right {s : Text × Text} (hp : p t = [])
    (h : q.First test t s) : (Pattern.alt p q).First test t s := by
  obtain ⟨others, hq, hothers⟩ := h
  exact ⟨others, by simp [Pattern.alt, hp, hq], hothers⟩

/-- What fits is taken first, and nothing last. -/
theorem First.optional {s : Text × Text} (h : p.First test t s)
    (ht : Begins test t) : (optional p).First test t s := by
  obtain ⟨others, hp, hothers⟩ := h
  refine ⟨others ++ [([], t)], by simp [Pattern.optional, hp], ?_⟩
  intro r hr
  rcases List.mem_append.mp hr with hr | hr
  · exact hothers r hr
  · rw [List.mem_singleton.mp hr]
    exact ht

end Pattern

-- ================================================================ rules

namespace Rule

variable {κ : Type} {rule : Rule κ} {kind : κ} {p : Pattern} {t : Text}
  {parts : List (κ × Text)} {after : Text}

/-- The parts a rule takes are the beginning of the text. -/
theorem parts_append (hsound : ∀ part ∈ rule, part.2.Sound)
    (h : rule.match? t = some (parts, after)) :
    parts.flatMap Prod.snd ++ after = t := by
  induction rule generalizing t parts with
  | nil =>
      cases h
      rfl
  | cons part rule ih =>
      obtain ⟨kind, p⟩ := part
      obtain ⟨hp, hrule⟩ := List.forall_mem_cons.mp hsound
      obtain ⟨s, hs, hmatch⟩ := List.exists_of_findSome?_eq_some h
      obtain ⟨⟨more, u⟩, hmore, heq⟩ := Option.map_eq_some_iff.mp hmatch
      cases heq
      rw [List.flatMap_cons, List.append_assoc, ih hrule hmore]
      exact hp t s hs

/-- A rule fits where its first pattern has no split. -/
theorem match?_eq_none (h : p t = []) :
    match? ((kind, p) :: rule) t = none := by
  simp [match?, h]

/-- A rule takes the first split of its first pattern or none, if it has
no use for what the other splits leave. -/
theorem match?_first {test : Character → Bool} {s : Text × Text}
    (h : p.First test t s)
    (hothers : ∀ u, Pattern.Begins test u → match? rule u = none) :
    match? ((kind, p) :: rule) t
      = (match? rule s.2).map fun r => ((kind, s.1) :: r.1, r.2) := by
  obtain ⟨others, hp, hbegins⟩ := h
  have hnone : others.findSome? (fun s =>
      (match? rule s.2).map fun r => ((kind, s.1) :: r.1, r.2)) = none := by
    rw [List.findSome?_eq_none_iff]
    intro r hr
    rw [hothers r.2 (hbegins r hr), Option.map_none]
  rw [match?, hp, List.findSome?_cons, hnone]
  cases match? rule s.2 <;> rfl

end Rule

end TildeFormat
