/-
Runs of characters. A reader takes the characters that pass a test and
stops at the first that does not; so a run is read back whole, whatever
stands behind it, as long as that does not go on with the run.
-/
import Mathlib.Data.List.TakeWhile
import TildeFormat.Text.Basic

namespace TildeFormat

/-- The next character fails a test, or there is none. -/
def Stops (test : Character → Bool) (t : Text) : Prop :=
  ∀ c, t.head? = some c → test c = false

variable {test : Character → Bool} {t rest : Text}

theorem stops_nil (test : Character → Bool) : Stops test [] := by
  intro c hc
  cases hc

/-- A run stops in front of a character that fails. -/
theorem stops_cons {c : Character} (h : test c = false) (rest : Text) :
    Stops test (c :: rest) := by
  intro d hd
  cases hd
  exact h

/-- It stops in front of what it leaves. -/
theorem stops_dropWhile (test : Character → Bool) (t : Text) :
    Stops test (t.dropWhile test) := by
  intro c hc
  have := List.head?_dropWhile_not test t
  rwa [hc] at this

/-- There is no run just where it stops at once. -/
theorem takeWhile_eq_nil_iff : t.takeWhile test = [] ↔ Stops test t := by
  cases t with
  | nil => simp [stops_nil]
  | cons c t => cases hc : test c <;> simp [Stops, hc]

/-- A run of characters that pass, up to where it stops. -/
theorem takeWhile_append_stops (ht : ∀ c ∈ t, test c = true)
    (hrest : Stops test rest) : (t ++ rest).takeWhile test = t := by
  rw [List.takeWhile_append_of_pos ht]
  cases rest with
  | nil => simp
  | cons c rest => simp [hrest c rfl]

/-- What is behind a run of characters that pass. -/
theorem dropWhile_append_stops (ht : ∀ c ∈ t, test c = true)
    (hrest : Stops test rest) : (t ++ rest).dropWhile test = rest := by
  rw [List.dropWhile_append_of_pos ht]
  cases rest with
  | nil => rfl
  | cons c rest => simp [hrest c rfl]

end TildeFormat
