/-
What an attempt can fail with. A condition on failures is kept when
attempts follow one another, so it is enough to know it of each step.
-/

namespace TildeFormat

variable {ε α β : Type} {P : ε → Prop}

/-- Whatever an attempt fails with satisfies a condition. -/
def FailsOnly (P : ε → Prop) (attempt : Except ε α) : Prop :=
  ∀ e, attempt = .error e → P e

/-- What succeeds does not fail. -/
theorem failsOnly_ok (a : α) : FailsOnly P (.ok a) := by
  intro e h
  cases h

theorem failsOnly_error {e : ε} (h : P e) :
    FailsOnly P (.error e : Except ε α) := by
  rintro _ ⟨⟩
  exact h

/-- One attempt after another. -/
theorem FailsOnly.bind {attempt : Except ε α} {next : α → Except ε β}
    (h : FailsOnly P attempt) (hnext : ∀ a, FailsOnly P (next a)) :
    FailsOnly P (attempt >>= next) := by
  cases attempt with
  | error e => exact failsOnly_error (h e rfl)
  | ok a => exact hnext a

/-- A row of attempts fails as one of them does. -/
theorem failsOnly_mapM {f : α → Except ε β} (h : ∀ a, FailsOnly P (f a))
    (items : List α) : FailsOnly P (items.mapM f) := by
  induction items with
  | nil => exact failsOnly_ok []
  | cons item items ih =>
      rw [List.mapM_cons]
      exact (h item).bind fun b => ih.bind fun bs => failsOnly_ok _

end TildeFormat
