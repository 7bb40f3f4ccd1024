/-
The readable form of a text is read back. A character is escaped when the
one before it is a backslash that is not escaped itself. Between the quotes
every quote is escaped, and at the end of it nothing is left to be escaped;
so the first quote that is not escaped is the closing one.
-/
import TildeFormat.Text.Quoted

namespace TildeFormat.Text

-- ================================================================ reading

/-- The text from behind an opening quote up to the first quote that is not
escaped, and what is behind that. -/
def quoted? : Text → Option (Text × Text)
  | [] => none
  | '"' :: rest => some ([], rest)
  | '\\' :: c :: rest => (quoted? rest).map (Prod.map (c :: ·) id)
  | c :: rest => (quoted? rest).map (Prod.map (c :: ·) id)

/-- What stands between the quotes of a readable form is read as the
text. -/
theorem quoted?_escape (t rest : Text) :
    quoted? (escape t ++ .scalar '"' :: rest) = some (t, rest) := by
  induction t with
  | nil => rfl
  | cons c t ih =>
      rw [escape]
      split
      · show (quoted? (escape t ++ .scalar '"' :: rest)).map _ = _
        rw [ih]
        rfl
      · next hplain =>
        rw [not_or] at hplain
        rw [List.cons_append, quoted?, ih]
        · rfl
        · exact hplain.1
        · exact fun d _ hc _ => hplain.2 hc

-- ================================================================ escapes

/-- One more character: a backslash that is not escaped escapes the next
character. -/
def escapesAfter (escaped : Bool) (c : Character) : Bool :=
  c == '\\' && !escaped

/-- What comes behind a text is escaped. -/
def escapes (t : Text) : Bool := t.foldl escapesAfter false

theorem escapes_cons_plain {c : Character} (h : c ≠ '\\') (t : Text) :
    escapes (c :: t) = escapes t := by
  rw [escapes, List.foldl_cons, escapesAfter, beq_false_of_ne h,
    Bool.false_and]
  rfl

/-- An escaped character escapes nothing. -/
theorem escapes_cons_marked (c : Character) (t : Text) :
    escapes ('\\' :: c :: t) = escapes t := by
  rw [escapes, List.foldl_cons, List.foldl_cons,
    show escapesAfter false '\\' = true from rfl, escapesAfter,
    Bool.not_true, Bool.and_false]
  rfl

/-- Between the quotes nothing is left to be escaped at the end. -/
theorem escapes_escape (t : Text) : escapes (escape t) = false := by
  induction t with
  | nil => rfl
  | cons c t ih =>
      rw [escape]
      split
      · rw [escapes_cons_marked, ih]
      · next hplain =>
        rw [escapes_cons_plain (not_or.mp hplain).2, ih]

/-- Between the quotes every quote is escaped. -/
theorem escapes_of_quote {t front back : Text}
    (h : escape t = front ++ .scalar '"' :: back) : escapes front = true := by
  induction t generalizing front with
  | nil => cases front <;> cases h
  | cons c t ih =>
      rw [escape] at h
      split at h
      · match front with
        | [] => cases h
        | [d] =>
            cases h
            rfl
        | d :: e :: front =>
            simp only [List.cons_append, List.cons.injEq] at h
            rw [← h.1, escapes_cons_marked, ih h.2.2]
      · next hplain =>
        rw [not_or] at hplain
        match front with
        | [] => exact absurd (List.cons.inj h).1 hplain.1
        | d :: front =>
            rw [List.cons_append, List.cons.injEq] at h
            rw [← h.1, escapes_cons_plain hplain.2, ih h.2]

/-- Of the quotes behind the opening one the closing quote is the one that
is not escaped. -/
theorem escapes_eq_false_iff {t front back : Text}
    (h : escape t ++ [.scalar '"'] = front ++ .scalar '"' :: back) :
    escapes front = false ↔ back = [] := by
  rcases List.eq_nil_or_concat back with rfl | ⟨init, last, rfl⟩
  · rw [← (List.append_inj' h rfl).1, escapes_escape]
    simp
  · have hquote : escape t = front ++ .scalar '"' :: init := by
      rw [List.concat_eq_append, ← List.cons_append, ← List.append_assoc]
        at h
      exact (List.append_inj' h rfl).1
    rw [escapes_of_quote hquote]
    simp

end TildeFormat.Text
