/-
What a specification admits: a clause with no more parameters than there
are slots, every written-out parameter taken by its slot, and no modifier
the directive does not have. `Spec.check` decides this, and of a clause
it refuses it names one of the three.

A clause also has to be one that can be written down at all: a single
omitted parameter has no spelling of its own, for no parameters and one
omitted parameter would be the same text.
-/
import Mathlib.Data.Bool.AllAny
import TildeFormat.Proofs.Directive.Capitals

namespace TildeFormat

-- =========================================================== admission

/-- A slot takes a value: of its type, and not below its minimum. -/
def ParamSpec.Takes (slot : ParamSpec) (v : ParamValue) : Prop :=
  slot.accepts v.toValue = true ∧ slot.inRange v.toValue = true

/-- Every parameter that is written out is taken by its slot. -/
def SlotsTake (params : List Param) (slots : List ParamSpec) : Prop :=
  ∀ pair ∈ params.zip slots, ∀ v,
    pair.1.source.literal? = some v → pair.2.Takes v

/-- The modifiers are among the allowed ones. -/
def Modifiers.Within (m allowed : Modifiers) : Prop :=
  (m.colon = true → allowed.colon = true)
    ∧ (m.atSign = true → allowed.atSign = true)

/-- The specification admits the clause. -/
structure Spec.Admits (spec : Spec) (clause : Clause) : Prop where
  count : clause.params.length ≤ spec.params.length
  taken : SlotsTake clause.params spec.params
  within : clause.modifiers.Within spec.modifiers

/-- The directive of a letter allows the clause, and the clause can be
written. -/
structure Registry.Allows (registry : Registry) (letter : Character)
    (clause : Clause) : Prop where
  writable : clause.params.map Param.source ≠ [.omitted]
  admitted : ∃ spec, registry.get? [letter] = some spec
    ∧ spec.Admits clause

-- ============================================= the check decides it

theorem slotsTake_nil_left (slots : List ParamSpec) :
    SlotsTake [] slots := by
  intro pair h
  cases h

theorem slotsTake_nil_right (params : List Param) :
    SlotsTake params [] := by
  intro pair h
  rw [List.zip_nil_right] at h
  cases h

/-- A slot takes its parameter, and the others take theirs. -/
theorem slotsTake_cons {param : Param} {params : List Param}
    {slot : ParamSpec} {slots : List ParamSpec} :
    SlotsTake (param :: params) (slot :: slots)
      ↔ (∀ v, param.source.literal? = some v → slot.Takes v)
        ∧ SlotsTake params slots := by
  unfold SlotsTake
  rw [List.zip_cons_cons]
  exact List.forall_mem_cons

/-- The check passes exactly when the slots take the parameters. -/
theorem checkSlots_eq_ok_iff {directive : Text} (params : List Param)
    (slots : List ParamSpec) :
    checkSlots directive params slots = .ok ()
      ↔ SlotsTake params slots := by
  induction params generalizing slots with
  | nil => simp [checkSlots, slotsTake_nil_left]
  | cons param params ih =>
      cases slots with
      | nil => simp [checkSlots, slotsTake_nil_right]
      | cons slot slots =>
          rw [slotsTake_cons, checkSlots]
          cases hlit : param.source.literal? with
          | none => simp [ih]
          | some v =>
              by_cases haccepts : slot.accepts v.toValue = true
              · by_cases hrange : slot.inRange v.toValue = true
                · simp [haccepts, hrange, ih, ParamSpec.Takes]
                · simp [haccepts, hrange, ParamSpec.Takes]
              · simp [haccepts, ParamSpec.Takes]

/-- No modifier is left over exactly when all are allowed. -/
theorem without_isEmpty_iff (m allowed : Modifiers) :
    (m.without allowed).isEmpty = true ↔ m.Within allowed := by
  obtain ⟨mc, ma⟩ := m
  obtain ⟨ac, aa⟩ := allowed
  cases mc <;> cases ma <;> cases ac <;> cases aa <;>
    simp [Modifiers.without, Modifiers.isEmpty, Modifiers.Within]

/-- A clause passes the check just when the specification admits it. -/
theorem Spec.check_eq_ok_iff (spec : Spec) (clause : Clause) :
    spec.check clause = .ok () ↔ spec.Admits clause := by
  unfold Spec.check
  constructor
  · intro h
    split at h
    · cases h
    · next hcount =>
      split at h
      · cases h
      · next hslots =>
        simp only at h
        split at h
        · next hmods =>
          exact ⟨List.getElem?_eq_none_iff.mp hcount,
            (checkSlots_eq_ok_iff _ _).mp hslots,
            (without_isEmpty_iff _ _).mp hmods⟩
        · cases h
  · intro ⟨hcount, htaken, hwithin⟩
    rw [List.getElem?_eq_none_iff.mpr hcount,
      (checkSlots_eq_ok_iff _ _).mpr htaken]
    simp [(without_isEmpty_iff _ _).mpr hwithin]

-- =================================================== places do not matter

/-- What slots take depends on the sources alone. -/
theorem SlotsTake.congr {params others : List Param}
    {slots : List ParamSpec} (h : SlotsTake params slots)
    (hsources : params.map Param.source = others.map Param.source) :
    SlotsTake others slots := by
  induction params generalizing others slots with
  | nil =>
      rw [List.map_nil, eq_comm, List.map_eq_nil_iff] at hsources
      exact hsources ▸ h
  | cons param params ih =>
      cases others with
      | nil => cases hsources
      | cons other others =>
          obtain ⟨hsource, hrest⟩ := List.cons.inj hsources
          cases slots with
          | nil => exact slotsTake_nil_right _
          | cons slot slots =>
              obtain ⟨htaken, htakes⟩ := slotsTake_cons.mp h
              exact slotsTake_cons.mpr
                ⟨fun v hv => htaken v (hsource ▸ hv), ih htakes hrest⟩

/-- What is allowed does not depend on where it stands. -/
theorem Registry.Allows.congr {registry : Registry} {letter : Character}
    {clause other : Clause} (h : registry.Allows letter clause)
    (hsources : clause.params.map Param.source
      = other.params.map Param.source)
    (hmodifiers : clause.modifiers = other.modifiers) :
    registry.Allows letter other := by
  obtain ⟨hwritable, spec, hspec, hadmits⟩ := h
  refine ⟨hsources ▸ hwritable, spec, hspec, ?_, ?_, ?_⟩
  · have hlength := congrArg List.length hsources
    rw [List.length_map, List.length_map] at hlength
    exact hlength ▸ hadmits.count
  · exact hadmits.taken.congr hsources
  · exact hmodifiers ▸ hadmits.within

/-- The parameters of an allowed clause are taken by the slots of its
directive. -/
theorem Registry.Allows.slotsTake {registry : Registry} {letter : Character}
    {clause : Clause} (h : registry.Allows letter clause) :
    SlotsTake clause.params (registry.slots letter) := by
  obtain ⟨-, spec, hspec, hadmits⟩ := h
  rw [Registry.slots, hspec]
  exact hadmits.taken

/-- There are no more parameters than slots. -/
theorem Registry.Allows.length_le {registry : Registry} {letter : Character}
    {clause : Clause} (h : registry.Allows letter clause) :
    clause.params.length ≤ (registry.slots letter).length := by
  obtain ⟨-, spec, hspec, hadmits⟩ := h
  rw [Registry.slots, hspec]
  exact hadmits.count

-- ============================================== the built-in directives

variable {settings : Settings}

/-- Each built-in kind is found under its letter. -/
theorem get?_kind (settings : Settings) (kind : Kind) :
    (Registry.builtin settings).get? [kind.letter]
      = some (Registry.stepSpec settings kind) := by
  cases kind <;> rfl

theorem slots_kind (settings : Settings) (kind : Kind) :
    (Registry.builtin settings).slots kind.letter
      = (Registry.stepSpec settings kind).params := by
  rw [Registry.slots, get?_kind]

/-- The specifications of the built-in set: the one-step directives, the
joining of lines, and the brackets with separator and escape. -/
theorem mem_specs_builtin {spec : Spec}
    (h : spec ∈ (Registry.builtin settings).specs) :
    (∃ kind, spec = Registry.stepSpec settings kind)
      ∨ spec = Registry.continuationSpec
      ∨ spec ∈ Registry.constructSpecs := by
  rcases List.mem_append.mp h with h | h
  · obtain ⟨kind, -, rfl⟩ := List.mem_map.mp h
    exact .inl ⟨kind, rfl⟩
  · rcases List.mem_cons.mp h with h | h
    · exact .inr (.inl h)
    · exact .inr (.inr h)

/-- What is found under a character is in the set, under its capital
form. -/
theorem mem_of_get? {registry : Registry} {c : Character} {spec : Spec}
    (h : registry.get? [c] = some spec) :
    spec ∈ registry.specs ∧ upperChar c = spec.key := by
  refine ⟨List.mem_of_find?_eq_some h, ?_⟩
  have hkey := List.find?_some h
  rw [upper_singleton] at hkey
  exact (of_decide_eq_true hkey).symm

/-- Characters with one capital form stand for one directive. -/
theorem get?_congr {registry : Registry} {c d : Character}
    (h : upperChar c = upperChar d) :
    registry.get? [c] = registry.get? [d] := by
  unfold Registry.get?
  rw [upper_singleton, upper_singleton, h]

/-- The letters of the built-in directives. -/
def builtinLetters : List Character :=
  ['A', 'S', 'D', 'F', '*', '%', '~', '\n', '\x7b', '\x7d', '<', '>',
    ';', '^']

/-- The letters are their own capital forms. -/
theorem upperChar_of_builtinLetters :
    ∀ letter ∈ builtinLetters, upperChar letter = [letter] := by
  have hcheck : (builtinLetters.all fun letter =>
      upperChar letter == [letter]) = true := by decide +kernel
  intro letter hletter
  exact beq_iff_eq.mp (List.all_eq_true.mp hcheck letter hletter)

/-- The letters of the kinds are letters of the registry. -/
theorem letter_mem_builtinLetters (kind : Kind) :
    kind.letter ∈ builtinLetters := by
  cases kind <;> decide

/-- Every built-in directive is kept under one letter. -/
theorem key_of_mem_builtin {spec : Spec}
    (h : spec ∈ (Registry.builtin settings).specs) :
    ∃ letter ∈ builtinLetters, spec.key = [letter] := by
  rcases mem_specs_builtin h with ⟨kind, rfl⟩ | rfl | h
  · refine ⟨kind.letter, letter_mem_builtinLetters kind, ?_⟩
    cases kind <;> rfl
  · exact ⟨'\n', by decide, rfl⟩
  · simp only [Registry.constructSpecs, List.mem_cons,
      List.not_mem_nil, or_false] at h
    rcases h with rfl | rfl | rfl | rfl | rfl | rfl
    · exact ⟨'\x7b', by decide, rfl⟩
    · exact ⟨'\x7d', by decide, rfl⟩
    · exact ⟨'<', by decide, rfl⟩
    · exact ⟨'>', by decide, rfl⟩
    · exact ⟨';', by decide, rfl⟩
    · exact ⟨'^', by decide, rfl⟩

-- ====================================== what a directive is written by

/-- The long s, whose capital form is that of the s. -/
def longS : Character := '\u017f'

/-- The characters that stand for a built-in directive: the letters, the
small form of each that has one, and the long s. -/
def directiveChars : List Character :=
  builtinLetters ++ (['a', 's', 'd', 'f', longS] : Text)

/-- Where a run of letters leads to a letter of a built-in directive, it
comes from one of these characters. -/
private theorem runs_to_letters :
    ∀ run ∈ caseRuns, ∀ letter ∈ builtinLetters,
      run.holds ((letter.toNat : Int) - run.offset).toNat = true →
        Character.ofNat ((letter.toNat : Int) - run.offset).toNat
          ∈ directiveChars := by
  have hcheck : (caseRuns.all fun run => builtinLetters.all fun letter =>
      decide (run.holds ((letter.toNat : Int) - run.offset).toNat = true →
        Character.ofNat ((letter.toNat : Int) - run.offset).toNat
          ∈ directiveChars)) = true := by
    decide +kernel
  intro run hrun letter hletter
  exact of_decide_eq_true (List.all_eq_true.mp
    (List.all_eq_true.mp hcheck run hrun) letter hletter)

/-- No other character has the letter of a built-in directive as its
capital form. -/
theorem mem_directiveChars {c letter : Character}
    (hletter : letter ∈ builtinLetters) (h : upperChar c = [letter]) :
    c ∈ directiveChars := by
  have hnull : letter ≠ '\x00' := by
    rintro rfl
    exact absurd hletter (by decide)
  rcases upperChar_cases hnull h with rfl | ⟨run, hrun, hholds, hcode⟩
  · exact List.mem_append_left _ hletter
  · have hback : ((letter.toNat : Int) - run.offset).toNat = c.toNat := by
      omega
    have hmem := runs_to_letters run hrun letter hletter
    rw [hback, Character.ofNat_toNat] at hmem
    exact hmem hholds

-- ====================================== what no directive is written by

/-- The characters that go on with what stands before a directive's own:
they start a parameter, separate two, or are a modifier. -/
def continuers : List Character :=
  ['0', '1', '2', '3', '4', '5', '6', '7', '8', '9', '\'', '#', '+', '-',
    'v', 'V', ',', ':', '@']

/-- A digit is one of ten characters. -/
theorem isDigit_mem {c : Character} (h : c.isDigit = true) :
    c ∈ continuers.take 10 := by
  have hall : ∀ m ∈ List.range' 48 10,
      Character.ofNat m ∈ continuers.take 10 := by decide
  obtain ⟨hlow, hhigh⟩ := Character.isDigit_iff.mp h
  have := hall c.toNat (List.mem_range'_1.mpr ⟨hlow, by omega⟩)
  rwa [Character.ofNat_toNat] at this

/-- The characters that start a parameter are among those a directive goes
on with. -/
theorem startsParam_mem {c : Character} (h : startsParam c = true) :
    c ∈ continuers := by
  rcases Bool.or_eq_true_iff.mp h with hdigit | hother
  · exact List.mem_of_mem_take (isDigit_mem hdigit)
  · have hmem := List.contains_iff_mem.mp hother
    simp only [List.mem_cons, List.not_mem_nil, or_false] at hmem
    rcases hmem with rfl | rfl | rfl | rfl | rfl | rfl <;> decide

/-- None of them stands for a built-in directive. -/
theorem not_mem_continuers {c : Character} (h : c ∈ directiveChars) :
    c ∉ continuers := by
  have hall : ∀ d ∈ directiveChars, d ∉ continuers :=
    List.all_iff_forall_prop.mp (by decide)
  exact hall c h

/-- Nothing that goes on with a parameter list or the modifiers is the
character of a built-in directive. -/
theorem not_mem_continuers_of_get? {c : Character} {spec : Spec}
    (h : (Registry.builtin settings).get? [c] = some spec) :
    c ∉ continuers := by
  obtain ⟨hmem, hkey⟩ := mem_of_get? h
  obtain ⟨letter, hletter, heq⟩ := key_of_mem_builtin hmem
  exact not_mem_continuers (mem_directiveChars hletter (hkey.trans heq))

end TildeFormat
