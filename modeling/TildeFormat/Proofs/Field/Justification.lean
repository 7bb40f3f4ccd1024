/-
Justified fields: what their text is made of. A justification is a
sequence of parts, the segments in order and the pad points among them, and
its text has a run of the pad character at each pad point and nothing else
besides the segments.

The runs come from dealing the padding out from the left, and all that is
said about them rests on one fact: while every point can have `low`
characters, every share is at least `low`, and while `high` characters a
point are enough, no share is more. The first share is the whole part of an
equal share, so the others are at least as large, and at most one larger.
-/
import TildeFormat.Proofs.Binary64.Ceiling

namespace TildeFormat.JustifiedField

-- =============================================================== parts

/-- A part of a justified text. -/
inductive Part where
  | segment (t : Text)
  | pad
deriving DecidableEq

/-- A pad point where it is asked for. -/
def padIf (asked : Bool) : List Part := if asked then [.pad] else []

/-- The segments with the pad points that are asked for: between
neighbours, and before the first and after the last one by the flags. -/
def askedParts (before after : Bool) (segments : List Text) : List Part :=
  padIf before ++ ((segments.map .segment).intersperse .pad ++ padIf after)

/-- The parts of a justified text: where no pad point is asked for, there
is one in front. -/
def parts (before after : Bool) (segments : List Text) : List Part :=
  if .pad ∈ askedParts before after segments then
    askedParts before after segments
  else .pad :: askedParts before after segments

/-- A text made of parts, with runs of a character of these lengths at the
pad points, in order. -/
inductive Filled (c : Character) : List Part → List Nat → Text → Prop
  | nil : Filled c [] [] []
  | segment {rest : List Part} {runs : List Nat} {text : Text} (t : Text)
      (h : Filled c rest runs text) :
      Filled c (.segment t :: rest) runs (t ++ text)
  | pad {rest : List Part} {runs : List Nat} {text : Text} (run : Nat)
      (h : Filled c rest runs text) :
      Filled c (.pad :: rest) (run :: runs)
        (List.replicate run c ++ text)

/-- The width of a field: `mincol`, or the first of those in steps of
`colinc` from there, that has room for `needed` characters. -/
structure IsWidth (mincol colinc needed width : Nat) : Prop where
  stepped : ∃ steps, width = mincol + steps * colinc
  holds : needed ≤ width
  least : ∀ steps, needed ≤ mincol + steps * colinc →
    width ≤ mincol + steps * colinc

variable {before after : Bool} {segments : List Text}

theorem count_intersperse_pad (segments : List Text) :
    ((segments.map Part.segment).intersperse .pad).count .pad
      = segments.length - 1 := by
  induction segments with
  | nil => rfl
  | cons s rest ih =>
      cases rest with
      | nil => rfl
      | cons s' rest =>
          rw [List.map_cons, List.map_cons, List.intersperse_cons_cons,
            List.count_cons_of_ne (by simp), List.count_cons_self,
            ← List.map_cons, ih]
          simp

theorem count_padIf (asked : Bool) :
    (padIf asked).count .pad = asked.toNat := by
  cases asked <;> rfl

-- ============================================================== shares

/-- Behind a first share there is as much left for each of the other
points, and for none of them more than one more. -/
theorem rest_bounds (points : Nat) (padding : Int) :
    padding.fdiv (points + 1) * points
        ≤ padding - padding.fdiv (points + 1)
      ∧ padding - padding.fdiv (points + 1)
        ≤ (padding.fdiv (points + 1) + 1) * points := by
  have hpoints : (0 : Int) < points + 1 := by omega
  rw [Int.fdiv_eq_ediv_of_nonneg _ (Int.le_of_lt hpoints)]
  have hle := Int.ediv_mul_le padding (Int.ne_of_gt hpoints)
  have hlt := Int.lt_ediv_add_one_mul_self padding hpoints
  rw [Int.mul_add, Int.mul_one] at hle hlt
  omega

/-- While every point can have `low` characters, every share is at least
`low`. -/
theorem le_of_mem_shares {low padding : Int} {points : Nat}
    (h : low * points ≤ padding) :
    ∀ share ∈ shares points padding, low ≤ share := by
  induction points generalizing padding with
  | zero =>
      intro share hshare
      cases hshare
  | succ points ih =>
      have hpoints : (0 : Int) < points + 1 := by omega
      have hfirst : low ≤ padding.fdiv (points + 1) := by
        rw [Int.fdiv_eq_ediv_of_nonneg _ (Int.le_of_lt hpoints)]
        exact Int.le_ediv_of_mul_le hpoints h
      have hrest : low * points ≤ padding - padding.fdiv (points + 1) :=
        Int.le_trans
          (Int.mul_le_mul_of_nonneg_right hfirst (Int.natCast_nonneg _))
          (rest_bounds points padding).1
      intro share hshare
      rcases List.mem_cons.mp hshare with rfl | hshare
      · exact hfirst
      · exact ih hrest share hshare

/-- While `high` characters a point are enough, no share is more. -/
theorem le_of_mem_shares_of_le {high padding : Int} {points : Nat}
    (h : padding ≤ high * points) :
    ∀ share ∈ shares points padding, share ≤ high := by
  induction points generalizing padding with
  | zero =>
      intro share hshare
      cases hshare
  | succ points ih =>
      have hpoints : (0 : Int) < points + 1 := by omega
      have hfirst : padding.fdiv (points + 1) ≤ high := by
        rw [Int.fdiv_eq_ediv_of_nonneg _ (Int.le_of_lt hpoints)]
        exact Int.ediv_le_of_le_mul hpoints h
      have hrest : padding - padding.fdiv (points + 1) ≤ high * points := by
        rcases Int.lt_or_eq_of_le hfirst with hless | heq
        · exact Int.le_trans (rest_bounds points padding).2
            (Int.mul_le_mul_of_nonneg_right hless (Int.natCast_nonneg _))
        · rw [heq]
          rw [Int.natCast_add, Int.mul_add] at h
          omega
      intro share hshare
      rcases List.mem_cons.mp hshare with rfl | hshare
      · exact hfirst
      · exact ih hrest share hshare

/-- Shares never decrease. -/
theorem pairwise_shares (points : Nat) (padding : Int) :
    (shares points padding).Pairwise (· ≤ ·) := by
  induction points generalizing padding with
  | zero => exact List.Pairwise.nil
  | succ points ih =>
      exact List.Pairwise.cons
        (le_of_mem_shares (rest_bounds points padding).1) (ih _)

/-- No share is more than one larger than another. -/
theorem shares_close (points : Nat) (padding : Int) :
    ∀ share ∈ shares points padding, ∀ other ∈ shares points padding,
      share ≤ other + 1 := by
  cases points with
  | zero =>
      intro share hshare
      cases hshare
  | succ points =>
      obtain ⟨hle, hlt⟩ := rest_bounds points padding
      intro share hshare other hother
      have hhigh : share ≤ padding.fdiv (points + 1) + 1 :=
        le_of_mem_shares_of_le
          (by rw [Int.natCast_add, Int.mul_add]; omega) share hshare
      have hlow : padding.fdiv (points + 1) ≤ other :=
        le_of_mem_shares
          (by rw [Int.natCast_add, Int.mul_add]; omega) other hother
      omega

theorem length_shares (points : Nat) (padding : Int) :
    (shares points padding).length = points := by
  induction points generalizing padding with
  | zero => rfl
  | succ points ih => rw [shares, List.length_cons, ih]

/-- The shares as numbers of characters: each at least as large as all of
them can be, never decreasing, and no two more than one apart. -/
theorem fair_shares {low points : Nat} {padding : Int}
    (h : (low : Int) * points ≤ padding) :
    (∀ run ∈ (shares points padding).map Int.toNat, low ≤ run)
      ∧ ((shares points padding).map Int.toNat).Pairwise (· ≤ ·)
      ∧ ∀ run ∈ (shares points padding).map Int.toNat,
        ∀ other ∈ (shares points padding).map Int.toNat,
          run ≤ other + 1 := by
  have hlow := le_of_mem_shares h
  refine ⟨?_, ?_, ?_⟩
  · intro run hrun
    obtain ⟨share, hshare, rfl⟩ := List.mem_map.mp hrun
    have := hlow share hshare
    omega
  · refine List.Pairwise.map Int.toNat ?_ (pairwise_shares points padding)
    intro share other hle
    exact Int.toNat_le_toNat hle
  · intro run hrun other hother
    obtain ⟨share, hshare, rfl⟩ := List.mem_map.mp hrun
    obtain ⟨share', hshare', rfl⟩ := List.mem_map.mp hother
    have := hlow share hshare
    have := hlow share' hshare'
    have := shares_close points padding share hshare share' hshare'
    omega

-- ================================================================ text

/-- The runs of the pad character, as texts. -/
def fillsOf (c : Character) (runs : List Nat) : List Text :=
  runs.map fun run => List.replicate run c

theorem mapM_eq_ok_map {α β ε : Type} {f : α → Except ε β} {g : α → β}
    {items : List α} (h : ∀ item ∈ items, f item = .ok (g item)) :
    items.mapM f = .ok (items.map g) := by
  induction items with
  | nil => rfl
  | cons item items ih =>
      obtain ⟨hfirst, hrest⟩ := List.forall_mem_cons.mp h
      rw [List.mapM_cons, hfirst, ih hrest]
      rfl

/-- Counts in range give runs of the pad character. -/
theorem mapM_repeated (c : Character) {counts : List Int}
    (h : ∀ count ∈ counts, 0 ≤ count ∧ count < countLimit) :
    counts.mapM (repeated [c]) = .ok (fillsOf c (counts.map Int.toNat)) := by
  rw [fillsOf, List.map_map]
  apply mapM_eq_ok_map
  intro count hcount
  obtain ⟨hlow, hhigh⟩ := h count hcount
  exact repeated_singleton c hlow hhigh

/-- All of the padding is dealt out. -/
theorem length_fillsOf_shares (c : Character) {points : Nat} {padding : Int}
    (hpoints : 0 < points) (hpadding : 0 ≤ padding) :
    ((fillsOf c ((shares points padding).map Int.toNat)).flatten.length : Int)
      = padding := by
  obtain ⟨points, rfl⟩ : ∃ rest, points = rest + 1 :=
    ⟨points - 1, by omega⟩
  clear hpoints
  induction points generalizing padding with
  | zero =>
      simp [shares, fillsOf]
      omega
  | succ points ih =>
      have hshare : 0 ≤ padding.fdiv ((points + 1 : Nat) + 1) :=
        Int.fdiv_nonneg hpadding (by omega)
      have hrest : 0 ≤ padding - padding.fdiv ((points + 1 : Nat) + 1) :=
        Int.le_trans (Int.mul_nonneg hshare (Int.natCast_nonneg _))
          (rest_bounds (points + 1) padding).1
      rw [shares, List.map_cons, fillsOf, List.map_cons, List.flatten_cons,
        List.length_append, List.length_replicate, ← fillsOf,
        Int.natCast_add, ih hrest]
      omega

/-- Segments and fills are laid out in full. -/
theorem length_interleave (segments fills : List Text) :
    (interleave segments fills).length
      = segments.flatten.length + fills.flatten.length := by
  fun_induction interleave segments fills with
  | case1 fills => simp
  | case2 s fills => simp
  | case3 s rest h ih => simp [ih]
  | case4 s rest fill fills h ih =>
      simp [ih]
      omega

/-- Behind the last segment stands at most one run. -/
theorem filled_padIf (c : Character) {after : Bool} {runs : List Nat}
    (h : runs.length = after.toNat) :
    Filled c (padIf after) runs (fillsOf c runs).flatten := by
  cases after with
  | false =>
      cases List.length_eq_zero_iff.mp h
      exact .nil
  | true =>
      obtain ⟨run, rfl⟩ := List.length_eq_one_iff.mp h
      exact .pad run .nil

/-- As many fills as there are gaps, and one more when there is a pad point
behind the last segment, stand at the pad points. -/
theorem filled_interleave (c : Character) (after : Bool) {segments : List Text}
    {runs : List Nat}
    (h : runs.length = segments.length - 1 + after.toNat) :
    Filled c ((segments.map .segment).intersperse .pad ++ padIf after) runs
      (interleave segments (fillsOf c runs)) := by
  induction segments generalizing runs with
  | nil => exact filled_padIf c (by simpa using h)
  | cons s rest ih =>
      cases rest with
      | nil => exact .segment s (filled_padIf c (by simpa using h))
      | cons s' rest =>
          cases runs with
          | nil =>
              rw [List.length_nil, List.length_cons, List.length_cons] at h
              omega
          | cons run runs =>
              simp only [List.length_cons] at h
              have hrest := @ih runs
                (by simp only [List.length_cons]; omega)
              have htext := Filled.segment s (.pad run hrest)
              rw [← List.append_assoc] at htext
              exact htext

-- ============================================================ pad points

/-- The pad points asked for are the gaps and those of the flags. -/
theorem count_askedParts (before after : Bool) (segments : List Text) :
    (askedParts before after segments).count .pad
      = segments.length - 1 + before.toNat + after.toNat := by
  rw [askedParts, List.count_append, List.count_append, count_padIf,
    count_padIf, count_intersperse_pad]
  omega

variable {field : JustifiedField}

/-- The parts are those between the segments and behind them, with a pad
point in front where the field starts with one. -/
theorem parts_eq (field : JustifiedField) (segments : List Text) :
    parts field.padBefore field.padAfter segments
      = padIf (field.startsPadded segments)
        ++ ((segments.map .segment).intersperse .pad
          ++ padIf field.padAfter) := by
  have hcount := count_askedParts field.padBefore field.padAfter segments
  rw [parts, startsPadded, askedPoints]
  by_cases hpad : .pad ∈ askedParts field.padBefore field.padAfter segments
  · have hpos := List.count_pos_iff.mpr hpad
    rw [if_pos hpad, ← hcount, beq_eq_false_iff_ne.mpr (by omega),
      Bool.or_false, askedParts]
  · have hzero := List.count_eq_zero.mpr hpad
    rw [if_neg hpad, ← hcount, hzero, beq_self_eq_true, Bool.or_true]
    have hbefore : field.padBefore = false := by
      cases hflag : field.padBefore with
      | false => rfl
      | true =>
          rw [hzero, hflag, Bool.toNat_true] at hcount
          omega
    rw [askedParts, hbefore]
    rfl

/-- There are as many pad points as the field counts. -/
theorem count_parts (field : JustifiedField) (segments : List Text) :
    (parts field.padBefore field.padAfter segments).count .pad
      = field.points segments := by
  rw [parts_eq, List.count_append, List.count_append, count_padIf,
    count_padIf, count_intersperse_pad, startsPadded, points]
  have hasked : field.askedPoints segments = segments.length - 1
    + field.padBefore.toNat + field.padAfter.toNat := rfl
  split
  · next hzero =>
    rw [hzero, beq_self_eq_true, Bool.or_true, Bool.toNat_true]
    omega
  · next hpos =>
    rw [beq_eq_false_iff_ne.mpr hpos, Bool.or_false]
    omega

-- ================================================================ fields

/-- Segments and fills laid out, the first fill in front where a field
starts with a pad point. -/
def spread (starts : Bool) (segments fills : List Text) : Text :=
  match starts, fills with
  | true, first :: rest => first ++ interleave segments rest
  | _, _ => interleave segments fills

theorem length_spread (starts : Bool) (segments fills : List Text) :
    (spread starts segments fills).length
      = segments.flatten.length + fills.flatten.length := by
  unfold spread
  split
  · rw [List.length_append, length_interleave, List.flatten_cons,
      List.length_append]
    omega
  · exact length_interleave segments fills

/-- One fill for each pad point stands at the pad points. -/
theorem filled_spread (c : Character) {starts after : Bool}
    {segments : List Text} {runs : List Nat}
    (h : runs.length
      = starts.toNat + (segments.length - 1 + after.toNat)) :
    Filled c (padIf starts
        ++ ((segments.map .segment).intersperse .pad ++ padIf after)) runs
      (spread starts segments (fillsOf c runs)) := by
  cases starts with
  | false =>
      rw [Bool.toNat_false, Nat.zero_add] at h
      exact filled_interleave c after h
  | true =>
      cases runs with
      | nil =>
          rw [Bool.toNat_true, List.length_nil] at h
          omega
      | cons run runs =>
          rw [Bool.toNat_true, List.length_cons] at h
          exact .pad run (filled_interleave c after (by omega))

/-- A field that has its width and its fills is drawn. -/
theorem draw_eq_spread {segments fills : List Text} {width : Int}
    (hwidth : field.width segments = .ok width)
    (hfills : (shares (field.points segments)
      (width - contentLength segments)).mapM (repeated field.padchar)
        = .ok fills) :
    field.draw segments
      = .ok (spread (field.startsPadded segments) segments fills) := by
  unfold draw spread
  rw [hwidth]
  show ((shares (field.points segments)
    (width - contentLength segments)).mapM
      (repeated field.padchar) >>= _) = _
  rw [hfills]
  cases field.startsPadded segments with
  | false => rfl
  | true => cases fills <;> rfl

/-- Segments in a width that has room for them are laid out over it. -/
theorem draw_of_width {c : Character} {segments : List Text} {width : Nat}
    (hpadchar : field.padchar = [c])
    (hwidth : field.width segments = .ok (width : Int))
    (hroom : contentLength segments ≤ width)
    (hfits : (width : Int) < countLimit) :
    ∃ text, field.draw segments = .ok text ∧ text.length = width
      ∧ Filled c (parts field.padBefore field.padAfter segments)
        ((shares (field.points segments)
          ((width : Int) - contentLength segments)).map Int.toNat) text := by
  have hpoints : 0 < field.points segments := by
    unfold points
    split <;> omega
  have hpadding : (0 : Int) ≤ width - contentLength segments := by omega
  have hcounts : ∀ count ∈ shares (field.points segments)
      ((width : Int) - contentLength segments),
      0 ≤ count ∧ count < countLimit := by
    intro count hcount
    have hall : (width : Int) - contentLength segments
        ≤ (width - contentLength segments) * (field.points segments : Nat) := by
      have := Int.mul_le_mul_of_nonneg_left
        (show (1 : Int) ≤ (field.points segments : Nat) by omega) hpadding
      rwa [Int.mul_one] at this
    have hhigh := le_of_mem_shares_of_le hall count hcount
    exact ⟨le_of_mem_shares (by omega) count hcount, by omega⟩
  have hlength := length_fillsOf_shares c hpoints hpadding
  have hdraw := draw_eq_spread hwidth (hpadchar ▸ mapM_repeated c hcounts)
  refine ⟨_, hdraw, ?_, ?_⟩
  · rw [length_spread]
    unfold contentLength at hroom hlength ⊢
    omega
  · rw [parts_eq]
    apply filled_spread
    rw [List.length_map, length_shares, ← count_parts, parts_eq,
      List.count_append, List.count_append, count_padIf, count_padIf,
      count_intersperse_pad]

-- =============================================================== widths

theorem exists_isWidth (mincol needed : Nat) {colinc : Nat}
    (hcolinc : 1 ≤ colinc) :
    ∃ width, IsWidth mincol colinc needed width := by
  by_cases hroom : needed ≤ mincol
  · refine ⟨mincol, ⟨0, by omega⟩, hroom, ?_⟩
    intro steps _
    omega
  · have hmod := Nat.div_add_mod (needed - mincol + colinc - 1) colinc
    have hrem := Nat.mod_lt (needed - mincol + colinc - 1) hcolinc
    rw [Nat.mul_comm] at hmod
    refine ⟨mincol + (needed - mincol + colinc - 1) / colinc * colinc,
      ⟨_, rfl⟩, by omega, ?_⟩
    intro steps hsteps
    have hle : (needed - mincol + colinc - 1) / colinc ≤ steps := by
      rw [← Nat.lt_add_one_iff, Nat.div_lt_iff_lt_mul hcolinc,
        Nat.add_mul, Nat.one_mul]
      omega
    exact Nat.add_le_add_left (Nat.mul_le_mul_right colinc hle) mincol

/-- A field has the first width that has room, while that is below the
limit of the significands. -/
theorem width_of_isWidth {mincol colinc minpad width : Nat}
    (hcolinc : 1 ≤ colinc) {c : Character} {before after : Bool}
    {segments : List Text}
    (h : IsWidth mincol colinc (contentLength segments
      + (parts before after segments).count .pad * minpad) width)
    (hfits : width < significandLimit) :
    JustifiedField.width ⟨mincol, colinc, minpad, [c], before, after⟩
      segments = .ok (width : Int) := by
  obtain ⟨⟨steps, rfl⟩, hholds, hleast⟩ := h
  have hcount := count_parts
    ⟨mincol, colinc, minpad, [c], before, after⟩ segments
  simp only at hcount
  have hneeded : ((contentLength segments
      + (parts before after segments).count .pad * minpad : Nat) : Int)
      = contentLength segments
        + points ⟨mincol, colinc, minpad, [c], before, after⟩ segments
          * (minpad : Int) := by
    rw [hcount, Int.natCast_add, Int.natCast_mul]
  generalize contentLength segments
    + (parts before after segments).count .pad * minpad = needed at *
  unfold JustifiedField.width
  simp only [← hneeded]
  split
  · next hless =>
    -- one step fewer has no room
    have hlast : steps * colinc < needed - mincol + colinc := by
      by_cases hlarge : needed - mincol + colinc ≤ steps * colinc
      · have hfewer : (steps - 1) * colinc = steps * colinc - colinc := by
          rw [Nat.sub_mul, Nat.one_mul]
        have := hleast (steps - 1) (by omega)
        omega
      · omega
    have hblocks := @blocks_eq_of_lt (needed - mincol) _ _ hcolinc
      (by omega) (by omega) hlast (by omega)
    rw [← Int.natCast_sub (by omega), hblocks]
    rfl
  · next hroom =>
    have hnone := hleast 0 (by omega)
    have hzero : steps * colinc = 0 := by omega
    rw [hzero]
    rfl

-- ======================================================== justification

/-- Justification spreads segments over the first width that has room for
them and for `minpad` characters a pad point. The text is all segments in
order with runs of the pad character at the pad points and nowhere else;
no run is shorter than `minpad`, runs never decrease, and no two differ by
more than one. -/
theorem draw_spread (mincol minpad : Nat) {colinc : Nat}
    (hcolinc : 1 ≤ colinc) (c : Character) (before after : Bool)
    (segments : List Text) :
    ∃ width, IsWidth mincol colinc (segments.flatten.length
        + (parts before after segments).count .pad * minpad) width
      ∧ (width < significandLimit → ∃ text runs,
        draw ⟨mincol, colinc, minpad, [c], before, after⟩ segments
            = .ok text
          ∧ text.length = width
          ∧ Filled c (parts before after segments) runs text
          ∧ (∀ run ∈ runs, minpad ≤ run)
          ∧ runs.Pairwise (· ≤ ·)
          ∧ ∀ run ∈ runs, ∀ other ∈ runs, run ≤ other + 1) := by
  obtain ⟨width, hwidth⟩ := exists_isWidth mincol
    (segments.flatten.length
      + (parts before after segments).count .pad * minpad) hcolinc
  refine ⟨width, hwidth, fun hfits => ?_⟩
  have hholds := hwidth.holds
  have hcount := count_parts
    ⟨mincol, colinc, minpad, [c], before, after⟩ segments
  simp only at hcount
  have hcountable : (width : Int) < countLimit := by
    unfold significandLimit at hfits
    unfold countLimit
    omega
  obtain ⟨text, hdraw, hlength, hfilled⟩ := @draw_of_width
    ⟨mincol, colinc, minpad, [c], before, after⟩ c segments width rfl
    (width_of_isWidth hcolinc hwidth hfits)
    (Nat.le_trans (Nat.le_add_right _ _) hholds) hcountable
  refine ⟨text, _, hdraw, hlength, hfilled, fair_shares ?_⟩
  rw [← hcount]
  unfold contentLength
  have : ((((parts before after segments).count .pad * minpad : Nat)) : Int)
      = (minpad : Int) * ((parts before after segments).count .pad : Nat) := by
    rw [Int.natCast_mul, Int.mul_comm]
  omega

/-- Two segments with three pad points in blocks of seven: eleven pad
characters, of which the first point gets the least. -/
theorem draw_spread_blocks :
    1 ≤ 7
      ∧ (draw ⟨10, 7, 3, ['*'], true, true⟩
          [['f', 'o'], ['b', 'a', 'r', 's']]).toOption
        = some (Text.ofString "***fo****bars****")
      ∧ ∃ width, IsWidth 10 7
          (([['f', 'o'], ['b', 'a', 'r', 's']] : List Text).flatten.length
            + (parts true true [['f', 'o'], ['b', 'a', 'r', 's']]).count .pad
              * 3) width
        ∧ (width < significandLimit → ∃ text runs,
          draw ⟨(10 : Nat), (7 : Nat), (3 : Nat), ['*'], true, true⟩
              [['f', 'o'], ['b', 'a', 'r', 's']] = .ok text
            ∧ text.length = width
            ∧ Filled '*' (parts true true [['f', 'o'], ['b', 'a', 'r', 's']])
              runs text
            ∧ (∀ run ∈ runs, 3 ≤ run)
            ∧ runs.Pairwise (· ≤ ·)
            ∧ ∀ run ∈ runs, ∀ other ∈ runs, run ≤ other + 1) :=
  ⟨by decide, by decide +kernel,
    draw_spread 10 3 (by decide) '*' true true _⟩

end TildeFormat.JustifiedField
