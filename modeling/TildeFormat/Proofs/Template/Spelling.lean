/-
How a template is spelled: the relation between a text and the pieces it
is made of, told without the readers that find them.

A piece has more than one spelling. The character of a directive may be
any whose capital form is the directive's letter; `v` may be a capital;
the modifiers may stand in either order; an integer may have a plus sign
and zeros in front. Everything else is fixed: the tilde, the quote in
front of a character, the commas between parameters, and of literal text
every character.

Between pieces there may be joined lines: a tilde, modifiers, a line
break and the white space behind it, all of it when there is no colon
and none of it when there is one. A joined line leaves no piece, or the
line break alone when it has an `@`.

Pieces carry their offsets, so a spelling is told from an offset on.
-/
import TildeFormat.Proofs.Directive.Admission

namespace TildeFormat

-- ========================================================== parameters

/-- Digits, at least one. -/
def IsNumeral (ds : Text) : Prop := ds ≠ [] ∧ ∀ c ∈ ds, c.isDigit = true

/-- The spellings of a parameter. -/
inductive ParamSource.Spelling : ParamSource → Text → Prop
  | omitted : Spelling .omitted []
  | unsigned {ds : Text} (h : IsNumeral ds) :
      Spelling (.integer (Numeral.value ds)) ds
  | plus {ds : Text} (h : IsNumeral ds) :
      Spelling (.integer (Numeral.value ds)) ('+' :: ds)
  | minus {ds : Text} (h : IsNumeral ds) :
      Spelling (.integer (-(Numeral.value ds : Int))) ('-' :: ds)
  | character (c : Character) : Spelling (.character c) ['\'', c]
  | nextArgument {c : Character} (h : c = 'v' ∨ c = 'V') :
      Spelling .nextArgument [c]
  | remaining : Spelling .remaining ['#']

/-- The spellings of one or more parameters with commas between them,
from an offset on. -/
inductive SlotsSpelling : Nat → List Param → Text → Prop
  | last {o : Nat} {source : ParamSource} {w : Text}
      (h : source.Spelling w) : SlotsSpelling o [⟨source, o⟩] w
  | more {o : Nat} {source : ParamSource} {w rest : Text}
      {params : List Param} (h : source.Spelling w)
      (hrest : SlotsSpelling (o + w.length + 1) params rest) :
      SlotsSpelling o (⟨source, o⟩ :: params) (w ++ .scalar ',' :: rest)

/-- The spellings of a parameter list. No parameters at all are nothing
written, so a single omitted one has no spelling. -/
inductive ParamsSpelling : Nat → List Param → Text → Prop
  | none {o : Nat} : ParamsSpelling o [] []
  | some {o : Nat} {params : List Param} {w : Text}
      (h : SlotsSpelling o params w) (hw : w ≠ []) :
      ParamsSpelling o params w

-- ========================================================== directives

/-- The spellings of a clause with a character behind it, its tilde at an
offset. -/
inductive Clause.Spelling : Nat → Clause → Character → Text → Prop
  | mk {o : Nat} {params : List Param} {modifiers : Modifiers} {c : Character}
      {ps ms : Text} (hps : ParamsSpelling (o + 1) params ps)
      (hms : ms.Perm modifiers.text) :
      Spelling o ⟨params, modifiers, o⟩ c ('~' :: (ps ++ (ms ++ [c])))

/-- The letter and the clause of a piece that is a directive. -/
def Piece.directive? : Piece → Option (Character × Clause)
  | .text _ _ => none
  | .simple kind clause => some (kind.letter, clause)
  | .opener shape clause => some (shape.opener, clause)
  | .closer shape clause => some (shape.closer, clause)
  | .separator clause => some (';', clause)
  | .escape clause => some ('^', clause)

/-- A directive is one the registry allows. -/
def Piece.Allowed (registry : Registry) (piece : Piece) : Prop :=
  ∀ letter clause, piece.directive? = some (letter, clause) →
    registry.Allows letter clause

/-- The spellings of a piece that is a directive. -/
def Piece.Spelling (o : Nat) (piece : Piece) (w : Text) : Prop :=
  ∃ letter clause c, piece.directive? = some (letter, clause)
    ∧ upperChar c = [letter] ∧ clause.Spelling o c w

/-- A joined line in front of a rest: its line break and, when there is
no colon, all the white space up to the rest. -/
inductive JoinSpelling : Modifiers → Text → Text → Prop
  | mk {modifiers : Modifiers} {ms blanks rest : Text}
      (hms : ms.Perm modifiers.text)
      (hblanks : ∀ c ∈ blanks, isIndentation c = true)
      (hcolon : modifiers.colon = true → blanks = [])
      (hrest : modifiers.colon = false →
        ∀ c, rest.head? = some c → isIndentation c = false) :
      JoinSpelling modifiers ('~' :: (ms ++ .scalar '\n' :: blanks)) rest

/-- The piece a joined line leaves. -/
def keptBreak (modifiers : Modifiers) (o : Nat) : List Piece :=
  if modifiers.atSign then [.text ['\n'] o] else []

-- ============================================================ templates

/-- A text that goes on with a directive, or not at all. -/
def Fresh (t : Text) : Prop := ∀ c, t.head? = some c → c = '~'

/-- The spellings of a sequence of pieces, from an offset on. A run of
literal text goes on to the next tilde. -/
inductive Spelling (registry : Registry) : Nat → Text → List Piece → Prop
  | nil {o : Nat} : Spelling registry o [] []
  | text {o : Nat} {t rest : Text} {pieces : List Piece} (ht : t ≠ [])
      (htilde : .scalar '~' ∉ t) (hfresh : Fresh rest)
      (hrest : Spelling registry (o + t.length) rest pieces) :
      Spelling registry o (t ++ rest) (.text t o :: pieces)
  | directive {o : Nat} {w rest : Text} {piece : Piece}
      {pieces : List Piece} (hpiece : piece.Spelling o w)
      (hallowed : piece.Allowed registry)
      (hrest : Spelling registry (o + w.length) rest pieces) :
      Spelling registry o (w ++ rest) (piece :: pieces)
  | join {o : Nat} {modifiers : Modifiers} {w rest : Text}
      {pieces : List Piece} (hjoin : JoinSpelling modifiers w rest)
      (hrest : Spelling registry (o + w.length) rest pieces) :
      Spelling registry o (w ++ rest) (keptBreak modifiers o ++ pieces)

-- ============================================== what a spelling forces

/-- Nothing is written just for an omitted parameter. -/
theorem ParamSource.Spelling.eq_nil_iff {source : ParamSource} {w : Text}
    (h : source.Spelling w) : w = [] ↔ source = .omitted := by
  cases h with
  | omitted => simp
  | unsigned hds => simp [hds.1]
  | plus | minus | character | nextArgument | remaining => simp

/-- A written parameter list is not a single omitted parameter. -/
theorem ParamsSpelling.writable {o : Nat} {params : List Param}
    {w : Text} (h : ParamsSpelling o params w) :
    params.map Param.source ≠ [.omitted] := by
  cases h with
  | none => simp
  | some h hw =>
      cases h with
      | last hsource =>
          intro heq
          exact hw (hsource.eq_nil_iff.mpr (List.singleton_inj.mp heq))
      | more _ hrest =>
          cases hrest <;> simp

/-- A clause that is spelled has not one omitted parameter alone: there is
no way to write it. -/
theorem Clause.Spelling.writable {o : Nat} {clause : Clause} {c : Character}
    {w : Text} (h : clause.Spelling o c w) :
    clause.params.map Param.source ≠ [.omitted] := by
  cases h with
  | mk hps => exact hps.writable

/-- Freshness is seen at the first character. -/
theorem Fresh.append {s t : Text} (h : Fresh s) (hs : s ≠ []) :
    Fresh (s ++ t) := by
  cases s with
  | nil => exact absurd rfl hs
  | cons d s => exact h

theorem fresh_tilde (t : Text) : Fresh ('~' :: t) := by
  intro c hc
  exact (Option.some.inj hc).symm

theorem fresh_nil : Fresh [] := by
  intro c hc
  cases hc

/-- A directive's spelling begins with its tilde. -/
theorem Piece.Spelling.eq_tilde_cons {o : Nat} {piece : Piece} {w : Text}
    (h : piece.Spelling o w) : ∃ t, w = .scalar '~' :: t := by
  obtain ⟨letter, clause, c, -, -, hw⟩ := h
  cases hw with
  | mk => exact ⟨_, rfl⟩

/-- A line break is written with a tilde in front. -/
theorem JoinSpelling.eq_tilde_cons {modifiers : Modifiers}
    {w rest : Text} (h : JoinSpelling modifiers w rest) :
    ∃ t, w = .scalar '~' :: t := by
  cases h with
  | mk => exact ⟨_, rfl⟩

end TildeFormat
