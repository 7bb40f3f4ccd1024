/-
What the rules take where a directive is written, and where there is text.

The parameters and the modifiers of a directive are taken as they are
spelled. A pattern can also take less of them, but then what is left goes
on with a character of a parameter, with a comma or with a modifier, and
none of these is the character of a directive or a line break; so no rule
has a use for it (`fit?_directive`).

Only the long s is left out of the classes of characters. There the tilde is
an error together with the character behind it (`fit?_stray`).
-/
import Mathlib.Data.List.Basic
import TildeFormat.Proofs.Highlight.Tiling
import TildeFormat.Proofs.Template.Sources

namespace TildeFormat

namespace Lexeme

variable {o : Nat} {source : ParamSource} {params : List Param}
  {t w ps ms rest : Text} {c : Character} {kind : TokenClass} {chars : String}

-- ============================================================ characters

/-- The characters a parameter starts with. -/
def startsSlot (c : Character) : Bool :=
  isDecimalDigit c || oneOf "+-" c || c == '\'' || oneOf "vV#" c

/-- The characters parameters go on with. -/
def inParams (c : Character) : Bool := startsSlot c || c == ','

theorem mem_of_oneOf {s : String} (h : oneOf s c = true) :
    c ∈ Text.ofString s := List.contains_iff_mem.mp h

theorem startsSlot_of_digit (h : isDecimalDigit c = true) :
    startsSlot c = true := by simp [startsSlot, h]

/-- An ASCII digit starts a number and nothing else. -/
theorem digit_tests (h : c.isDigit = true) :
    isDecimalDigit c = true ∧ oneOf "+-" c = false ∧ c ≠ '\''
      ∧ oneOf "vV#" c = false := by
  have hall : ∀ d ∈ continuers.take 10, isDecimalDigit d = true
      ∧ oneOf "+-" d = false ∧ d ≠ '\'' ∧ oneOf "vV#" d = false :=
    List.all_iff_forall_prop.mp (by decide)
  exact hall c (isDigit_mem h)

-- ======================================================== one parameter

open Pattern

/-- A number without its sign or with it. -/
def numberPattern : Pattern :=
  .seq (.optional (.char (oneOf "+-"))) (.some isDecimalDigit)

/-- A quoted character. -/
def quotedPattern : Pattern :=
  .seq (.char (· == '\'')) (.char fun _ => true)

theorem numberPattern_eq_nil (hsign : oneOf "+-" c = false)
    (hdigit : isDecimalDigit c = false) : numberPattern (c :: t) = [] := by
  simp [numberPattern, Pattern.seq, Pattern.optional, Pattern.some,
    Pattern.char, hsign, hdigit]

theorem quotedPattern_eq_nil (hc : c ≠ '\'') :
    quotedPattern (c :: t) = [] := by
  simp [quotedPattern, Pattern.seq, Pattern.char, hc]

theorem paramPattern_eq_nil (h : Stops startsSlot t) :
    paramPattern t = [] := by
  cases t with
  | nil => rfl
  | cons c t =>
      have hc := h c rfl
      simp only [startsSlot, Bool.or_eq_false_iff,
        beq_eq_false_iff_ne] at hc
      obtain ⟨⟨⟨hdigit, hsign⟩, hquote⟩, hletter⟩ := hc
      show numberPattern (c :: t)
        ++ (quotedPattern (c :: t) ++ Pattern.char (oneOf "vV#") (c :: t))
        = []
      rw [numberPattern_eq_nil hsign hdigit, quotedPattern_eq_nil hquote]
      simp [Pattern.char, hletter]

/-- No digits start at a sign. -/
theorem digits_of_sign (h : Begins (oneOf "+-") t) :
    Pattern.some isDecimalDigit t = [] := by
  obtain ⟨c, t, rfl, hc⟩ := h
  have hall : ∀ d ∈ word "+-", isDecimalDigit d = false :=
    List.all_iff_forall_prop.mp (by decide)
  have hdigit := hall c (mem_of_oneOf hc)
  simp [Pattern.some, Pattern.seq, Pattern.char, hdigit]

/-- A number is taken with its sign and all its digits. -/
theorem first_numberPattern {sign ds : Text}
    (hsign : sign = [] ∨ sign = [.scalar '+'] ∨ sign = [.scalar '-'])
    (hds : IsNumeral ds) (hrest : Stops startsSlot rest) :
    numberPattern.First startsSlot (sign ++ (ds ++ rest))
      (sign ++ ds, rest) := by
  have hdigits : ∀ c ∈ ds, isDecimalDigit c = true := fun c hc =>
    (digit_tests (hds.2 c hc)).1
  have hstops : Stops isDecimalDigit rest := by
    intro c hc
    have hslot := hrest c hc
    rw [Bool.eq_false_iff] at hslot ⊢
    exact fun hdigit => hslot (startsSlot_of_digit hdigit)
  have hfront : (Pattern.optional (.char (oneOf "+-"))).First (oneOf "+-")
      (sign ++ (ds ++ rest)) (sign, ds ++ rest) := by
    rcases hsign with rfl | rfl | rfl
    · obtain ⟨d, ds, rfl⟩ := List.exists_cons_of_ne_nil hds.1
      have hd := (digit_tests (hds.2 d List.mem_cons_self)).2.1
      apply first_of_eq
      simp [Pattern.optional, Pattern.char, hd]
    all_goals
      exact (first_of_eq rfl _).optional ⟨_, _, rfl, by decide⟩
  have hboth := hfront.seq (first_some hds.1 hdigits hstops) (by
    intro u hu x hx
    rw [digits_of_sign hu] at hx
    cases hx)
  exact hboth.imp fun c => startsSlot_of_digit

/-- A parameter that is written is taken whole. -/
theorem first_paramPattern (h : source.Spelling w) (hw : w ≠ [])
    (hrest : Stops startsSlot rest) :
    paramPattern.First startsSlot (w ++ rest) (w, rest) := by
  have hnumber {sign ds : Text}
      (hsign : sign = [] ∨ sign = [.scalar '+'] ∨ sign = [.scalar '-'])
      (hds : IsNumeral ds) :
      paramPattern.First startsSlot (sign ++ (ds ++ rest))
        (sign ++ ds, rest) := by
    refine (first_numberPattern hsign hds hrest).alt_left ?_
    obtain ⟨d, ds, rfl⟩ := List.exists_cons_of_ne_nil hds.1
    have hd := (digit_tests (hds.2 d List.mem_cons_self)).2.2
    rcases hsign with rfl | rfl | rfl
    · simp [Pattern.alt, Pattern.seq, Pattern.char, hd]
    all_goals rfl
  cases h with
  | omitted => exact absurd rfl hw
  | unsigned hds => exact hnumber (.inl rfl) hds
  | plus hds => exact hnumber (.inr (.inl rfl)) hds
  | minus hds => exact hnumber (.inr (.inr rfl)) hds
  | character c =>
      exact .alt_right (numberPattern_eq_nil (by decide) (by decide))
        (.alt_left (first_of_eq rfl _) rfl)
  | nextArgument hc =>
      rcases hc with rfl | rfl
      all_goals
        exact .alt_right (numberPattern_eq_nil (by decide) (by decide))
          (.alt_right (quotedPattern_eq_nil (by decide))
            (first_of_eq rfl _))
  | remaining =>
      exact .alt_right (numberPattern_eq_nil (by decide) (by decide))
        (.alt_right (quotedPattern_eq_nil (by decide)) (first_of_eq rfl _))

/-- The first character of a parameter that is written. -/
theorem begins_of_spelling (h : source.Spelling w) (hw : w ≠ []) :
    Begins startsSlot (w ++ rest) := by
  cases h with
  | omitted => exact absurd rfl hw
  | unsigned hds =>
      obtain ⟨d, ds, rfl⟩ := List.exists_cons_of_ne_nil hw
      have hd := (digit_tests (hds.2 d List.mem_cons_self)).1
      exact ⟨d, ds ++ rest, rfl, startsSlot_of_digit hd⟩
  | plus | minus | character | remaining => exact ⟨_, _, rfl, by decide⟩
  | nextArgument hc =>
      rcases hc with rfl | rfl <;> exact ⟨_, _, rfl, by decide⟩

-- ===================================================== parameter lists

/-- A slot: a parameter or nothing. -/
def slotPattern : Pattern := .optional paramPattern

/-- Slots with a comma in front of each. -/
def moreSlots : Pattern := .star (.seq (.char (· == ',')) slotPattern)

/-- A slot is taken as it is spelled. -/
theorem first_slotPattern (h : source.Spelling w)
    (hrest : Stops startsSlot rest) :
    slotPattern.First startsSlot (w ++ rest) (w, rest) := by
  by_cases hw : w = []
  · subst hw
    apply first_of_eq
    simp [slotPattern, Pattern.optional, paramPattern_eq_nil hrest]
  · exact (first_paramPattern h hw hrest).optional (begins_of_spelling h hw)

/-- There are no more slots without a comma. -/
theorem moreSlots_of_stops (h : Stops (· == ',') t) :
    moreSlots t = [([], t)] := by
  have hcomma : Pattern.seq (.char (· == ',')) slotPattern t = [] := by
    cases t with
    | nil => rfl
    | cons c t => simp [Pattern.seq, Pattern.char, h c rfl]
  rw [moreSlots, Pattern.star, hcomma]
  rfl

/-- Behind a comma there are parameters again, or the comma is left. -/
theorem moreSlots_comma (t : Text) :
    moreSlots (',' :: t)
      = (paramsPattern t).map (fun s => (.scalar ',' :: s.1, s.2))
        ++ [([], .scalar ',' :: t)] := by
  have hslot : Pattern.seq (.char (· == ',')) slotPattern (',' :: t)
      = (slotPattern t).map fun s => (.scalar ',' :: s.1, s.2) := by
    simp [Pattern.seq, Pattern.char]
  have hshorter : ∀ s ∈ slotPattern t,
      s.2.length < (',' :: t : Text).length := by
    intro s hs
    have hlength := congrArg List.length (sound_paramPattern.optional t s hs)
    rw [List.length_append] at hlength
    rw [List.length_cons]
    omega
  rw [moreSlots, Pattern.star, hslot, List.flatMap_map]
  congr 1
  rw [show paramsPattern t = Pattern.seq slotPattern moreSlots t from rfl,
    Pattern.seq, List.map_flatMap]
  apply List.flatMap_congr
  intro s hs
  rw [if_pos (hshorter s hs), List.map_map]
  rfl

/-- Where parameters do not go on, there is no slot and no comma. -/
theorem stops_slots (h : Stops inParams rest) :
    Stops startsSlot rest ∧ Stops (· == ',') rest := by
  constructor <;> intro c hc
  all_goals
    have hboth := h c hc
    rw [inParams, Bool.or_eq_false_iff] at hboth
  · exact hboth.1
  · exact hboth.2

/-- At the start of a parameter there is no comma, so nothing is taken for
more slots. -/
theorem moreSlots_of_slot (h : Begins startsSlot t) :
    moreSlots t = [([], t)] := by
  obtain ⟨c, t, rfl, hc⟩ := h
  apply moreSlots_of_stops
  apply stops_cons
  rw [beq_eq_false_iff_ne]
  rintro rfl
  exact absurd hc (by decide)

/-- Slots are taken as they are spelled. What is left of them goes on with
a parameter or a comma. -/
theorem first_slots (h : SlotsSpelling o params w)
    (hrest : Stops inParams rest) :
    paramsPattern.First inParams (w ++ rest) (w, rest) := by
  have hover (u : Text) (hu : Begins startsSlot u) :
      ∀ x ∈ moreSlots u, Begins inParams x.2 := by
    intro x hx
    rw [moreSlots_of_slot hu, List.mem_singleton] at hx
    subst hx
    exact hu.imp fun c hc => by simp [inParams, hc]
  induction h with
  | last hsource =>
      have hmore := first_of_eq (moreSlots_of_stops (stops_slots hrest).2)
        inParams
      have hall := (first_slotPattern hsource
        (stops_slots hrest).1).seq hmore hover
      rwa [List.append_nil] at hall
  | @more _ source w tail params hsource _ ih =>
      obtain ⟨others, htail, hothers⟩ := ih
      have hmore : moreSlots.First inParams (',' :: (tail ++ rest))
          (',' :: tail, rest) := by
        refine ⟨others.map (fun s => (.scalar ',' :: s.1, s.2))
          ++ [([], .scalar ',' :: (tail ++ rest))], ?_, ?_⟩
        · simp [moreSlots_comma, htail]
        · intro r hr
          rcases List.mem_append.mp hr with hr | hr
          · obtain ⟨s, hs, rfl⟩ := List.mem_map.mp hr
            exact hothers s hs
          · rw [List.mem_singleton.mp hr]
            exact ⟨',', _, rfl, by decide⟩
      have hstops : Stops startsSlot (',' :: (tail ++ rest)) :=
        stops_cons (by decide) _
      have hslot := first_slotPattern hsource hstops
      have hall := hslot.seq hmore hover
      rwa [List.append_assoc, List.cons_append]

/-- Parameters that are written start with a slot or a comma. -/
theorem begins_of_params (h : Written ps ms c) (hne : ps ≠ [])
    (rest : Text) : Begins inParams (ps ++ rest) := by
  obtain ⟨o, params, hps⟩ := h.params
  have hslot {source : ParamSource} {w t : Text} (h : source.Spelling w)
      (hw : w ≠ []) : Begins inParams (w ++ t) :=
    (begins_of_spelling h hw).imp fun c hc => by simp [inParams, hc]
  cases hps with
  | none => exact absurd rfl hne
  | some hslots _ =>
      cases hslots with
      | last hsource => exact hslot hsource hne
      | @more _ _ w _ _ hsource _ =>
          by_cases hw : w = []
          · subst hw
            exact ⟨',', _, rfl, by decide⟩
          · rw [List.append_assoc]
            exact hslot hsource hw

-- ================================================================ rules

/-- A line break with what is taken of the white space behind it. -/
def breakPattern : Pattern :=
  .seq (.char (· == '\n')) (.many (oneOf " \t"))

/-- The rule of a joined line. -/
def joinRule : Rule TokenClass :=
  [(.marker, markerPattern), (.modifiers, modifiersPattern),
    (.continuation, breakPattern)]

/-- The rule of a tilde that starts nothing, with the character behind it on
its line. -/
def strayRule : Rule TokenClass :=
  [(.error, .seq markerPattern (.optional (.char (· != '\n'))))]

/-- The rule of text. -/
def textRule : Rule TokenClass := [(.text, .some (· != '~'))]

/-- The characters of each class of directives. -/
def classes : List (TokenClass × String) :=
  [(.bracket, "\x7b\x7d<>;^"), (.printing, "aAsSdDfF"),
    (.control, "*%~")]

theorem rules_eq :
    rules = joinRule :: classes.map (fun entry =>
        directiveRule entry.1 entry.2)
      ++ [strayRule, textRule] := rfl

/-- The class of a directive's character, if it is in one. -/
def directiveClass? (c : Character) : Option TokenClass :=
  classes.findSome? fun entry =>
    if oneOf entry.2 c then some entry.1 else none

-- ========================================================== directives

/-- Line break and long s aside, the character of a directive is in a
class. -/
theorem class_cases {c : Character} (hc : c ∈ directiveChars) :
    c = '\n' ∨ c = longS
      ∨ c ≠ '\n' ∧ ∃ kind, directiveClass? c = .some kind := by
  have hall : ∀ d ∈ directiveChars,
      d = '\n' ∨ d = longS ∨ d ≠ '\n' ∧ (directiveClass? d).isSome :=
    List.all_iff_forall_prop.mp (by decide)
  rcases hall c hc with hbreak | hlong | ⟨hother, hclass⟩
  · exact .inl hbreak
  · exact .inr (.inl hlong)
  · exact .inr (.inr ⟨hother, Option.isSome_iff_exists.mp hclass⟩)

/-- The characters of the classes are none that parameters go on with, no
modifiers and no line break. -/
theorem tests_of_class (hentry : (kind, chars) ∈ classes)
    (hc : oneOf chars c = true) :
    inParams c = false ∧ oneOf ":@" c = false ∧ c ≠ '\n' := by
  have hall : ∀ entry ∈ classes, ((Text.ofString entry.2).all fun d =>
      inParams d = false ∧ oneOf ":@" d = false ∧ d ≠ '\n') = true := by
    decide
  exact List.all_iff_forall_prop.mp (hall _ hentry) c (mem_of_oneOf hc)

/-- Nor is any other character of a directive. -/
theorem tests_of_directiveChars (hc : c ∈ directiveChars) :
    inParams c = false ∧ oneOf ":@" c = false := by
  have hall : ∀ d ∈ directiveChars,
      inParams d = false ∧ oneOf ":@" d = false :=
    List.all_iff_forall_prop.mp (by decide)
  exact hall c hc

theorem char_eq_nil {test chars : Character → Bool}
    (h : ∀ c, chars c = true → test c = false) (ht : Begins test t) :
    Pattern.char chars t = [] := by
  obtain ⟨c, t, rfl, hc⟩ := ht
  have hnot : chars c = false := by
    rw [Bool.eq_false_iff]
    intro hchars
    rw [h c hchars] at hc
    cases hc
  simp [Pattern.char, hnot]

/-- A rule that starts with a tilde takes it. -/
theorem match?_marker (rule : Rule TokenClass) (t : Text) :
    Rule.match? ((.marker, markerPattern) :: rule) ('~' :: t)
      = (Rule.match? rule t).map fun r =>
          ((.marker, [.scalar '~']) :: r.1, r.2) := by
  have hmarker : markerPattern.First (fun _ => false) ('~' :: t)
      (['~'], t) := first_of_eq rfl _
  refine Rule.match?_first hmarker ?_
  rintro u ⟨c, rest, -, ⟨⟩⟩

/-- Modifiers are taken as they are, if what comes behind them in the rule
cannot start with one. -/
theorem match?_modifiers {p : Pattern} (h : Written ps ms c)
    (hp : ∀ u, Begins (oneOf ":@") u → p u = []) :
    Rule.match? [(.modifiers, modifiersPattern), (kind, p)]
        (ms ++ c :: rest)
      = (Rule.match? [(kind, p)] (c :: rest)).map fun r =>
          ((.modifiers, ms) :: r.1, r.2) := by
  have hall : ∀ d ∈ ms, oneOf ":@" d = true := fun d hd =>
    List.contains_iff_mem.mpr (h.modifiers d hd)
  have hfirst := first_many hall
    (stops_cons (tests_of_directiveChars h.char).2 rest)
  exact Rule.match?_first hfirst fun u hu => Rule.match?_eq_none (hp u hu)

/-- Parameters are no modifiers, so where parameters go on none are
taken. -/
theorem match?_inParams {p : Pattern} (ht : Begins inParams t)
    (hp : p t = []) :
    Rule.match? [(.modifiers, modifiersPattern), (kind, p)] t = none := by
  have hstops : Stops (oneOf ":@") t := by
    obtain ⟨c, t, rfl, hc⟩ := ht
    apply stops_cons
    rw [Bool.eq_false_iff]
    intro hmod
    have hall : ∀ d ∈ word ":@", inParams d = false :=
      List.all_iff_forall_prop.mp (by decide)
    rw [hall c (mem_of_oneOf hmod)] at hc
    cases hc
  simp [Rule.match?, modifiersPattern, many_of_stops hstops, hp]

/-- The parts of a directive as its rule takes them. -/
def directiveParts (ps ms : Text) (c : Character) (kind : TokenClass) :
    List (TokenClass × Text) :=
  [(.marker, ['~']), (.params, ps), (.modifiers, ms), (kind, [c])]

/-- The parameters end where the modifiers and the character are. -/
theorem stops_inParams (h : Written ps ms c) :
    Stops inParams (ms ++ c :: rest) := by
  cases ms with
  | nil => exact stops_cons (tests_of_directiveChars h.char).1 _
  | cons d ms =>
      have hall : ∀ d ∈ ([':', '@'] : Text), inParams d = false :=
        List.all_iff_forall_prop.mp (by decide)
      exact stops_cons (hall d (h.modifiers d List.mem_cons_self)) _

/-- Parameters are taken as they are spelled. -/
theorem first_paramsPattern (h : Written ps ms c) :
    paramsPattern.First inParams (ps ++ (ms ++ c :: rest))
      (ps, ms ++ c :: rest) := by
  obtain ⟨o, params, hps⟩ := h.params
  cases hps with
  | none => exact first_slots (o := o) (.last .omitted) (stops_inParams h)
  | some hslots _ => exact first_slots hslots (stops_inParams h)

/-- The rule of a class fits a directive if its character is in the
class. -/
theorem match?_directiveRule (hentry : (kind, chars) ∈ classes)
    (h : Written ps ms c) (rest : Text) :
    (directiveRule kind chars).match? ('~' :: (ps ++ (ms ++ c :: rest)))
      = (if oneOf chars c then some kind else none).map fun kind =>
          (directiveParts ps ms c kind, rest) := by
  have hparams (u : Text) (hu : Begins inParams u) :
      Pattern.char (oneOf chars) u = [] :=
    char_eq_nil (fun _ hd => (tests_of_class hentry hd).1) hu
  have hmodifiers (u : Text) (hu : Begins (oneOf ":@") u) :
      Pattern.char (oneOf chars) u = [] :=
    char_eq_nil (fun _ hd => (tests_of_class hentry hd).2.1) hu
  rw [directiveRule, match?_marker,
    Rule.match?_first (first_paramsPattern h)
      (fun u hu => match?_inParams hu (hparams u hu)),
    match?_modifiers h hmodifiers]
  cases hclass : oneOf chars c <;>
    simp [Rule.match?, Pattern.char, hclass, directiveParts]

/-- A text that begins with a character that passes does not begin with one
that does not. -/
theorem head?_ne_of_begins {test : Character → Bool} (ht : Begins test t)
    (hc : test c = false) : t.head? ≠ some c := by
  obtain ⟨d, t, rfl, hd⟩ := ht
  intro h
  cases h
  rw [hc] at hd
  cases hd

theorem breakPattern_eq_nil (ht : t.head? ≠ some (.scalar '\n')) :
    breakPattern t = [] := by
  cases t with
  | nil => rfl
  | cons c t =>
      have hc : c ≠ '\n' := fun h => ht (congrArg Option.some h)
      simp [breakPattern, Pattern.seq, Pattern.char, hc]

/-- A modifier is no line break. -/
theorem breakPattern_modifiers (ht : Begins (oneOf ":@") t) :
    breakPattern t = [] :=
  breakPattern_eq_nil (head?_ne_of_begins ht (by decide))

/-- The parts of a joined line as its rule takes them, from the modifiers
and the text behind the line break. -/
def joinParts (ms behind : Text) : List (TokenClass × Text) :=
  [(.marker, ['~']), (.modifiers, ms),
    (.continuation, '\n' :: behind.takeWhile (oneOf " \t"))]

/-- The rule of a joined line takes the spaces and tabs behind the line
break. -/
theorem match?_joinRule (h : Written [] ms '\n') (rest : Text) :
    joinRule.match? ('~' :: (ms ++ .scalar '\n' :: rest))
      = some (joinParts ms rest, rest.dropWhile (oneOf " \t")) := by
  obtain ⟨others, hmany, -⟩ := first_many_takeWhile (oneOf " \t") rest
  rw [joinRule, match?_marker,
    match?_modifiers h fun _ => breakPattern_modifiers]
  simp [Rule.match?, breakPattern, Pattern.seq, Pattern.char, hmany,
    joinParts]

/-- The rule of a joined line fits no other directive. -/
theorem match?_joinRule_none (h : Written ps ms c) (hother : c ≠ '\n')
    (rest : Text) :
    joinRule.match? ('~' :: (ps ++ (ms ++ c :: rest))) = none := by
  rw [joinRule, match?_marker]
  by_cases hnone : ps = []
  · have hbreak : breakPattern (c :: rest) = [] :=
      breakPattern_eq_nil fun h => hother (Option.some.inj h)
    rw [hnone, List.nil_append,
      match?_modifiers h fun _ => breakPattern_modifiers,
      Rule.match?_eq_none hbreak]
    rfl
  · have hslot := begins_of_params h hnone (ms ++ c :: rest)
    have hbreak := breakPattern_eq_nil
      (head?_ne_of_begins hslot (by decide))
    rw [match?_inParams hslot hbreak]
    rfl

-- ============================================================== the steps

theorem findSome?_cons_or {α β : Type} (f : α → Option β) (a : α)
    (as : List α) :
    (a :: as).findSome? f = (f a).or (as.findSome? f) := by
  rw [List.findSome?_cons]
  cases f a <;> rfl

/-- A joined line comes first, then the classes of directives; what is left
is an error or text. -/
theorem fit?_eq (t : Text) :
    fit? t = (joinRule.match? t).or
      ((classes.findSome? fun entry =>
          (directiveRule entry.1 entry.2).match? t).or
        ((strayRule.match? t).or (textRule.match? t))) := by
  rw [fit?, rules_eq, List.cons_append, findSome?_cons_or,
    List.findSome?_append, List.findSome?_map, findSome?_cons_or,
    findSome?_cons_or, List.findSome?_nil, Option.or_none]
  rfl

/-- The first class whose rule fits a directive is that of its
character. -/
theorem findSome?_classes (h : Written ps ms c) (rest : Text) :
    (classes.findSome? fun entry => (directiveRule entry.1 entry.2).match?
        ('~' :: (ps ++ (ms ++ c :: rest))))
      = (directiveClass? c).map fun kind =>
          (directiveParts ps ms c kind, rest) := by
  have hmatch (entry : TokenClass × String) (hentry : entry ∈ classes) :=
    match?_directiveRule hentry h rest
  simp only [classes, List.forall_mem_cons] at hmatch
  obtain ⟨hbracket, hprinting, hcontrol, -⟩ := hmatch
  rw [directiveClass?, List.map_findSome?]
  simp only [classes, List.findSome?_cons, hbracket, hprinting, hcontrol,
    Function.comp_apply, List.findSome?_nil]

/-- A directive whose character is in a class is taken part by part. -/
theorem fit?_directive (h : Written ps ms c) (hother : c ≠ '\n')
    (hclass : directiveClass? c = .some kind) :
    fit? ('~' :: (ps ++ (ms ++ c :: rest)))
      = .some (directiveParts ps ms c kind, rest) := by
  rw [fit?_eq, match?_joinRule_none h hother, Option.none_or,
    findSome?_classes h, hclass]
  rfl

/-- A joined line is taken with the spaces and tabs behind it. -/
theorem fit?_join (h : Written [] ms '\n') :
    fit? ('~' :: (ms ++ .scalar '\n' :: rest))
      = .some (joinParts ms rest, rest.dropWhile (oneOf " \t")) := by
  rw [fit?_eq, match?_joinRule h]
  rfl

/-- Where the character of a directive is in no class, its tilde is an
error together with the next character. -/
theorem fit?_stray {d : Character} {behind : Text} (h : Written ps ms c)
    (hother : c ≠ '\n') (hclass : directiveClass? c = none)
    (ht : ps ++ (ms ++ c :: rest) = d :: behind) (hd : d ≠ '\n') :
    fit? ('~' :: d :: behind)
      = .some ([(.error, ['~', d])], behind) := by
  have hjoin := match?_joinRule_none h hother rest
  have hclasses := findSome?_classes h rest
  rw [ht] at hjoin hclasses
  rw [fit?_eq, hjoin, Option.none_or, hclasses, hclass]
  simp [strayRule, Rule.match?, markerPattern, Pattern.seq,
    Pattern.optional, Pattern.char, hd]

/-- Text goes on to the next tilde. -/
theorem fit?_text (ht : t ≠ []) (htilde : .scalar '~' ∉ t)
    (hrest : Fresh rest) :
    fit? (t ++ rest) = .some ([(.text, t)], rest) := by
  obtain ⟨c, t, rfl⟩ := List.exists_cons_of_ne_nil ht
  have hc : c ≠ '~' := (List.ne_of_not_mem_cons htilde).symm
  have hmarker : markerPattern (c :: (t ++ rest)) = [] := by
    simp [markerPattern, Pattern.char, hc]
  have hstray : strayRule.match? (c :: (t ++ rest)) = none := by
    apply Rule.match?_eq_none
    simp [Pattern.seq, hmarker]
  have hclasses : (classes.findSome? fun entry =>
      (directiveRule entry.1 entry.2).match? (c :: (t ++ rest)))
      = none :=
    List.findSome?_eq_none_iff.mpr fun _ _ => Rule.match?_eq_none hmarker
  have hjoin : joinRule.match? (c :: (t ++ rest)) = none :=
    Rule.match?_eq_none hmarker
  obtain ⟨others, hfirst, -⟩ := first_some ht
    (ne_tilde_of_not_mem htilde) hrest.stops
  have htext : textRule.match? (c :: (t ++ rest))
      = .some ([(.text, c :: t)], rest) := by
    simp only [textRule, Rule.match?]
    rw [← List.cons_append, hfirst]
    rfl
  rw [fit?_eq, List.cons_append, hjoin, hclasses, hstray, htext]
  rfl

end Lexeme

end TildeFormat
