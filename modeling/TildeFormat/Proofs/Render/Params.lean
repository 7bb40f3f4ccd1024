/-
The values the parameters of a clause come to. Whichever way a value
comes about, it is the default of its slot or one the slot takes: what
was written out was checked with the template, what comes from the
arguments is checked here, and what is left out is the default. So the
values of a directive fit the slots it has, one value for each, and the
slots of the built-in directives admit only values their actions work on.
-/
import TildeFormat.Proofs.Directive.Admission
import TildeFormat.Proofs.Field.Domain
import TildeFormat.Render

namespace TildeFormat

variable {directive : Text} {position : Nat} {slot : ParamSpec}
  {value : ParamValue}

-- ================================================================ values

/-- A value a slot can have. -/
def ParamSpec.Holds (slot : ParamSpec) (value : ParamValue) : Prop :=
  value = slot.default ∨ slot.Takes value

/-- One value for each slot. -/
def SlotsHold : List ParamSpec → List ParamValue → Prop
  | [], [] => True
  | slot :: slots, value :: values =>
    slot.Holds value ∧ SlotsHold slots values
  | _, _ => False

/-- What follows an attempt got what the attempt gave. -/
theorem bind_eq_ok {α β ε : Type} {attempt : Except ε α}
    {next : α → Except ε β} {b : β} (h : attempt >>= next = .ok b) :
    ∃ a, attempt = .ok a ∧ next a = .ok b := by
  cases attempt with
  | error e => cases h
  | ok a => exact ⟨a, rfl, h⟩

/-- A value that may be a parameter is kept as it is. -/
theorem toValue_of_param? {v : Value} (h : v.param? = some value) :
    value.toValue = v := by
  cases v with
  | int | str =>
      cases h
      rfl
  | _ => cases h

/-- A slot checks what it gets from the arguments. -/
theorem takes_of_resolve {v : Value} {shown : Text}
    (h : slot.resolve directive position v shown = .ok value) :
    slot.Takes value := by
  unfold ParamSpec.resolve at h
  split at h
  · cases h
  · next got hparam =>
    split at h
    · cases h
    · next haccepts =>
      split at h
      · cases h
      · next hrange =>
        cases h
        rw [ParamSpec.Takes, toValue_of_param? hparam]
        simpa using And.intro haccepts hrange

/-- A slot that takes what is written holds what it resolves to: an
argument is checked when it is taken, and a default suits its slot. -/
theorem resolveParam_holds {param? : Option Param} {cursor next : Cursor}
    (htaken : ∀ param, param? = some param →
      ∀ v, param.source.literal? = some v → slot.Takes v)
    (h : resolveParam directive param? slot cursor = .ok (value, next)) :
    slot.Holds value := by
  cases param? with
  | none =>
      cases h
      exact .inl rfl
  | some param =>
      obtain ⟨source, place⟩ := param
      cases source with
      | omitted =>
          cases h
          exact .inl rfl
      | integer n =>
          cases h
          exact .inr (htaken _ rfl _ rfl)
      | character c =>
          cases h
          exact .inr (htaken _ rfl _ rfl)
      | remaining =>
          simp only [resolveParam] at h
          obtain ⟨got, hgot, hlast⟩ := bind_eq_ok h
          cases hlast
          exact .inr (takes_of_resolve hgot)
      | nextArgument =>
          simp only [resolveParam] at h
          obtain ⟨⟨argument, after⟩, -, hargument⟩ := bind_eq_ok h
          simp only at hargument
          split at hargument
          · cases hargument
            exact .inl rfl
          · obtain ⟨got, hgot, hlast⟩ := bind_eq_ok hargument
            cases hlast
            exact .inr (takes_of_resolve hgot)

/-- So do all slots, from left to right. -/
theorem resolveParams_hold {params : List Param} {slots : List ParamSpec}
    {cursor last : Cursor} {values : List ParamValue}
    (htaken : SlotsTake params slots)
    (h : resolveParams directive params slots cursor
      = .ok (values, last)) : SlotsHold slots values := by
  induction slots generalizing params cursor values with
  | nil =>
      rw [resolveParams] at h
      cases h
      trivial
  | cons slot slots ih =>
      rw [resolveParams] at h
      obtain ⟨⟨value, next⟩, hvalue, h⟩ := bind_eq_ok h
      obtain ⟨⟨rest, after⟩, hrest, h⟩ := bind_eq_ok h
      cases h
      cases params with
      | nil =>
          refine ⟨resolveParam_holds (by simp) hvalue, ?_⟩
          exact ih (slotsTake_nil_left slots) hrest
      | cons param params =>
          obtain ⟨hparam, hparams⟩ := slotsTake_cons.mp htaken
          refine ⟨resolveParam_holds ?_ hvalue, ih hparams hrest⟩
          intro param' heq
          cases heq
          exact hparam

-- ================================================================ slots

/-- A slot takes integers from its minimum on, and single characters, as
far as its type allows either. -/
theorem ParamSpec.Takes.cases (h : slot.Takes value) :
    (∃ n, value = .integer n ∧ slot.type ≠ .character
        ∧ ∀ least, slot.minimum = some least → least ≤ n)
      ∨ ∃ c, value = .text [c] ∧ slot.type ≠ .integer := by
  obtain ⟨haccepts, hrange⟩ := h
  cases value with
  | absent => cases haccepts
  | integer n =>
      refine .inl ⟨n, rfl, bne_iff_ne.mp haccepts, ?_⟩
      intro least hleast
      simpa [ParamSpec.inRange, ParamValue.toValue, hleast] using hrange
  | text t =>
      match t with
      | [c] => exact .inr ⟨c, rfl, bne_iff_ne.mp haccepts⟩
      | [] | _ :: _ :: _ => cases haccepts

section

variable {name : String} {minimum : Option Int}

/-- A slot for an integer with a default holds one, not below its minimum.
-/
theorem holds_integer {n : Int}
    (h : (ParamSpec.mk name .integer (.integer n) minimum).Holds value)
    (hn : ∀ least, minimum = some least → least ≤ n) :
    ∃ m, value = .integer m
      ∧ ∀ least, minimum = some least → least ≤ m := by
  rcases h with rfl | h
  · exact ⟨n, rfl, hn⟩
  · rcases h.cases with ⟨m, rfl, -, hm⟩ | ⟨c, -, htype⟩
    · exact ⟨m, rfl, hm⟩
    · exact absurd rfl htype

/-- A slot without a default holds one or nothing. -/
theorem holds_optional_integer
    (h : (ParamSpec.mk name .integer .absent minimum).Holds value) :
    ∃ m?, value.integer?? = some m?
      ∧ ∀ m, m? = some m → ∀ least, minimum = some least → least ≤ m := by
  rcases h with rfl | h
  · exact ⟨none, rfl, by simp⟩
  · rcases h.cases with ⟨n, rfl, -, hn⟩ | ⟨c, -, htype⟩
    · refine ⟨some n, rfl, ?_⟩
      rintro m ⟨⟩
      exact hn
    · exact absurd rfl htype

/-- A slot for a character holds a text of one character. -/
theorem holds_character {c : Character}
    (h : (ParamSpec.mk name .character (.text [c]) minimum).Holds value) :
    ∃ t, value = .text t ∧ t.length = 1 := by
  rcases h with rfl | h
  · exact ⟨[c], rfl, rfl⟩
  · rcases h.cases with ⟨n, -, htype, -⟩ | ⟨c, rfl, -⟩
    · exact absurd rfl htype
    · exact ⟨[c], rfl, rfl⟩

/-- Without a default it may hold nothing. -/
theorem holds_optional_character
    (h : (ParamSpec.mk name .character .absent minimum).Holds value) :
    ∃ t?, value.text?? = some t? ∧ ∀ t, t? = some t → t.length = 1 := by
  rcases h with rfl | h
  · exact ⟨none, rfl, by simp⟩
  · rcases h.cases with ⟨n, -, htype, -⟩ | ⟨c, rfl, -⟩
    · exact absurd rfl htype
    · refine ⟨some [c], rfl, ?_⟩
      rintro t ⟨⟩
      rfl

end

-- ============================================= the built-in directives

/-- The values of padding. -/
theorem padding_values {values : List ParamValue}
    (h : SlotsHold Registry.paddingSlots values) :
    ∃ mincol colinc minpad padchar,
      values = [.integer mincol, .integer colinc, .integer minpad,
        .text padchar]
      ∧ PaddingInDomain mincol colinc minpad padchar := by
  match values, h with
  | [mincol, colinc, minpad, padchar], ⟨h1, h2, h3, h4, _⟩ =>
      obtain ⟨mincol, rfl, hmincol⟩ := holds_integer h1 (by simp)
      obtain ⟨colinc, rfl, hcolinc⟩ := holds_integer h2 (by simp)
      obtain ⟨minpad, rfl, hminpad⟩ := holds_integer h3 (by simp)
      obtain ⟨padchar, rfl, hpadchar⟩ := holds_character h4
      exact ⟨mincol, colinc, minpad, padchar, rfl, hmincol 0 rfl,
        hcolinc 1 rfl, hminpad 0 rfl, hpadchar⟩

/-- The values of the integer directive. -/
theorem decimal_values {settings : Settings} {values : List ParamValue}
    (h : SlotsHold (Registry.decimalSlots settings) values) :
    ∃ mincol padchar commachar interval,
      values = [.integer mincol, .text padchar, .text commachar,
        .integer interval]
      ∧ ∀ commas sign, DecimalField.InDomain
        ⟨mincol, padchar, commachar, interval, commas, sign⟩ := by
  match values, h with
  | [mincol, padchar, commachar, interval], ⟨h1, h2, h3, h4, _⟩ =>
      obtain ⟨mincol, rfl, hmincol⟩ := holds_integer h1 (by simp)
      obtain ⟨padchar, rfl, hpadchar⟩ := holds_character h2
      obtain ⟨commachar, rfl, hcommachar⟩ := holds_character h3
      obtain ⟨interval, rfl, hinterval⟩ := holds_integer h4
        (by simpa using settings.commaInterval_pos)
      exact ⟨mincol, padchar, commachar, interval, rfl, fun _ _ =>
        ⟨hmincol 0 rfl, hpadchar, hcommachar, hinterval 1 rfl⟩⟩

/-- The values of the fixed-point directive. -/
theorem fixed_values {values : List ParamValue}
    (h : SlotsHold Registry.fixedSlots values) :
    ∃ width width? digits digits? scale overflowchar overflowchar? padchar,
      values = [width, digits, .integer scale, overflowchar,
        .text padchar]
      ∧ width.integer?? = some width? ∧ digits.integer?? = some digits?
      ∧ overflowchar.text?? = some overflowchar?
      ∧ ∀ sign, FixedField.InDomain
        ⟨width?, digits?, scale, overflowchar?, padchar, sign⟩ := by
  match values, h with
  | [width, digits, scale, overflowchar, padchar],
      ⟨h1, h2, h3, h4, h5, _⟩ =>
      obtain ⟨width?, hwidth, hw⟩ := holds_optional_integer h1
      obtain ⟨digits?, hdigits, hd⟩ := holds_optional_integer h2
      obtain ⟨scale, rfl, -⟩ := holds_integer h3 (by simp)
      obtain ⟨overflowchar?, hover, ho⟩ := holds_optional_character h4
      obtain ⟨padchar, rfl, hpadchar⟩ := holds_character h5
      exact ⟨width, width?, digits, digits?, scale, overflowchar,
        overflowchar?, padchar, rfl, hwidth, hdigits, hover, fun _ =>
        ⟨fun w heq => hw w heq 0 rfl, fun d heq => hd d heq 0 rfl, ho,
          hpadchar⟩⟩

/-- The value of a directive that repeats. -/
theorem count_values {values : List ParamValue}
    (h : SlotsHold Registry.countSlots values) :
    ∃ count, values = [.integer count] ∧ 0 ≤ count := by
  match values, h with
  | [count], ⟨hcount, _⟩ =>
      obtain ⟨count, rfl, hpos⟩ := holds_integer hcount (by simp)
      exact ⟨count, rfl, hpos 0 rfl⟩

/-- The value of an iteration. -/
theorem passes_values {values : List ParamValue}
    (h : SlotsHold Registry.passesSlots values) :
    ∃ limit, passLimit? values = .ok limit
      ∧ ∀ n, limit = some n → 0 ≤ n := by
  match values, h with
  | [value], ⟨hvalue, _⟩ =>
      obtain ⟨limit, hlimit, hpos⟩ := holds_optional_integer hvalue
      refine ⟨limit, ?_, fun n heq => hpos n heq 0 rfl⟩
      cases value with
      | absent | integer =>
          cases hlimit
          rfl
      | text => cases hlimit

/-- The values of an escape. -/
theorem escape_values {values : List ParamValue}
    (h : SlotsHold Registry.escapeSlots values) :
    ∃ a b c, values = [a, b, c] := by
  match values, h with
  | [a, b, c], _ => exact ⟨a, b, c, rfl⟩

end TildeFormat
