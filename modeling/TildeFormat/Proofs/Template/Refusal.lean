/-
Which parameter a directive is refused for: the first one that is written
out and not taken by its slot. The parser checks the parameters from left
to right, so a template that begins with a directive whose parameters are
not all taken is refused at the first such parameter, whatever comes
after the directive; and if they are all taken, it is read.
-/
import TildeFormat.Proofs.Template.Nesting
import TildeFormat.Proofs.Template.Printing
import TildeFormat.Proofs.Template.Reading.Pieces

namespace TildeFormat

variable {settings : Settings} {params : List Param}
  {slots : List ParamSpec} {slot : ParamSpec} {value : ParamValue}
  {i : Nat} {letter : Character} {clause : Clause} {spec : Spec}

/-- The first parameter that its slot does not take is the one of this
number; it is written out with this value. -/
inductive FirstRefused :
    List Param → List ParamSpec → Nat → ParamSpec → ParamValue → Prop
  | here {param : Param} {params : List Param} {slot : ParamSpec}
      {slots : List ParamSpec} {value : ParamValue}
      (hwritten : param.source.literal? = some value)
      (hrefused : ¬slot.Takes value) :
      FirstRefused (param :: params) (slot :: slots) 0 slot value
  | later {param : Param} {params : List Param}
      {first slot : ParamSpec} {slots : List ParamSpec} {i : Nat}
      {value : ParamValue}
      (htaken : ∀ v, param.source.literal? = some v → first.Takes v)
      (h : FirstRefused params slots i slot value) :
      FirstRefused (param :: params) (first :: slots) (i + 1) slot value

/-- Where not every parameter is taken there is a first one that is
not. -/
theorem exists_firstRefused (h : ¬SlotsTake params slots) :
    ∃ i slot value, FirstRefused params slots i slot value := by
  induction params generalizing slots with
  | nil => exact absurd (slotsTake_nil_left slots) h
  | cons param params ih =>
      cases slots with
      | nil => exact absurd (slotsTake_nil_right _) h
      | cons first slots =>
          by_cases hfirst :
              ∀ v, param.source.literal? = some v → first.Takes v
          · have hrest : ¬SlotsTake params slots := fun hrest =>
              h (slotsTake_cons.mpr ⟨hfirst, hrest⟩)
            obtain ⟨i, slot, value, hrefused⟩ := ih hrest
            exact ⟨i + 1, slot, value, .later hfirst hrefused⟩
          · simp only [Classical.not_forall] at hfirst
            obtain ⟨value, hwritten, hrefused⟩ := hfirst
            exact ⟨0, first, value, .here hwritten hrefused⟩

/-- A parameter that is refused can be written. -/
theorem FirstRefused.writable
    (h : FirstRefused params slots i slot value) :
    params.map Param.source ≠ [.omitted] := by
  intro homitted
  cases h with
  | here hwritten =>
      obtain ⟨hsource, -⟩ := List.cons.inj homitted
      rw [hsource] at hwritten
      cases hwritten
  | later _ h =>
      obtain ⟨-, hnil⟩ := List.cons.inj homitted
      cases List.map_eq_nil_iff.mp hnil
      cases h

theorem FirstRefused.located
    (h : FirstRefused params slots i slot value) (o : Nat) :
    FirstRefused (locatedParams o params) slots i slot value := by
  induction h generalizing o with
  | here hwritten hrefused => exact .here hwritten hrefused
  | later htaken _ ih => exact .later htaken (ih _)

-- ============================================================== checking

/-- The check of the slots fails at the first parameter refused. -/
theorem checkSlots_of_firstRefused (directive : Text)
    (h : FirstRefused params slots i slot value) :
    ∃ e, checkSlots directive params slots = .error e
      ∧ e.cause.family = .invalidParameter
      ∧ some e.position = params[i]?.map Param.position := by
  induction h with
  | @here param _ slot _ value hwritten hrefused =>
      rw [checkSlots, hwritten]
      by_cases haccepts : slot.accepts value.toValue = true
      · have hrange : ¬slot.inRange value.toValue = true := fun hrange =>
          hrefused ⟨haccepts, hrange⟩
        exact ⟨⟨.belowMinimum directive slot value, param.position⟩,
          by simp [haccepts, hrange], rfl, rfl⟩
      · exact ⟨⟨.wrongType directive slot value, param.position⟩,
          by simp [haccepts], rfl, rfl⟩
  | @later param params first _ slots _ _ htaken _ ih =>
      obtain ⟨e, hcheck, hfamily, hposition⟩ := ih
      refine ⟨e, ?_, hfamily, hposition⟩
      rw [checkSlots]
      cases hwritten : param.source.literal? with
      | none => exact hcheck
      | some v =>
          obtain ⟨haccepts, hrange⟩ := htaken v hwritten
          simp [haccepts, hrange, hcheck]

/-- So does the check of a clause with no more parameters than slots. -/
theorem Spec.check_of_firstRefused
    (hcount : clause.params.length ≤ spec.params.length)
    (h : FirstRefused clause.params spec.params i slot value) :
    ∃ e, spec.check clause = .error e
      ∧ e.cause.family = .invalidParameter
      ∧ some e.position = clause.params[i]?.map Param.position := by
  obtain ⟨e, hcheck, hplace⟩ := checkSlots_of_firstRefused spec.name h
  refine ⟨e, ?_, hplace⟩
  rw [Spec.check, List.getElem?_eq_none_iff.mpr hcount]
  simp only [hcheck]

-- =============================================================== reading

/-- The directive is read, wherever it stands and whatever comes after
it. -/
def Clause.IsRead (clause : Clause) (registry : Registry)
    (letter : Character) : Prop :=
  ∃ w, clause.print letter = .scalar '~' :: w ∧ ∀ o after, ∃ piece next,
    readDirective registry o ⟨o + 1, w ++ after⟩ = .ok (some piece, next)

theorem isRead_of_allows {piece : Clause → Piece}
    (hpiece : ∀ clause, (piece clause).directive? = some (letter, clause))
    (h : (Registry.builtin settings).Allows letter clause) :
    clause.IsRead (.builtin settings) letter := by
  refine ⟨_, rfl, fun o after => ?_⟩
  have hupper := upperChar_of_builtinLetters letter
    (letter_of_directive (hpiece clause))
  have hallowed :
      (piece (clause.located o)).Allowed (.builtin settings) := by
    intro letter' clause' hdirective
    cases (hpiece _).symm.trans hdirective
    exact allows_located o h
  exact ⟨_, _, readDirective_of_spelling ⟨letter, _, letter, hpiece _,
    hupper, clause.spelling_print o h⟩ hallowed after⟩

/-- A template that begins with a directive that is not read is
refused. -/
theorem parse_of_readDirective_error {registry : Registry} {t : Text}
    {e : ParseError} (h : readDirective registry 0 ⟨1, t⟩ = .error e) :
    parse registry ('~' :: t) = .error e := by
  have hread : readPieces registry (Place.start ('~' :: t))
      = ⟨[], some e⟩ := readPieces_tilde_error h
  rw [parse, hread]
  rfl

/-- A template that begins with a directive some of whose parameters are
not taken is refused at the first of them. -/
theorem parse_of_firstRefused
    (hspec : (Registry.builtin settings).get? [letter] = some spec)
    (hcount : clause.params.length ≤ spec.params.length)
    (h : FirstRefused clause.params spec.params i slot value) :
    ∃ e, (∀ after, parse (.builtin settings)
        (clause.print letter ++ after) = .error e)
      ∧ e.cause.family = .invalidParameter
      ∧ some e.position
        = (clause.located 0).params[i]?.map Param.position := by
  have hlength : (clause.located 0).params.length
      ≤ spec.params.length := by
    have hsources := congrArg List.length
      (map_source_locatedParams 1 clause.params)
    rw [List.length_map, List.length_map] at hsources
    exact Nat.le_trans (Nat.le_of_eq hsources) hcount
  obtain ⟨e, hcheck, hplace⟩ :=
    Spec.check_of_firstRefused hlength (h.located 1)
  refine ⟨e, fun after => parse_of_readDirective_error ?_, hplace⟩
  have hspelling : (clause.located 0).Spelling 0 letter
      (clause.print letter) :=
    .mk (paramsSpelling_print _ h.writable) (.refl _)
  have hscan := scanDirective_of_spelling hspelling
    (not_mem_continuers_of_get? hspec) after
  unfold readDirective
  split
  · next e' he' => cases hscan.symm.trans he'
  · next token next htoken =>
    cases hscan.symm.trans htoken
    simp only [hspec, hcheck]

end TildeFormat
