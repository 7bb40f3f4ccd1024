/-
Rounding a quotient to the nearest natural number, a half going to the
even neighbour. Both the conversion to binary64 and the rounding to a
fixed number of decimal places are this one function at different
scales.
-/

namespace TildeFormat

/-- The natural number nearest to `num / den`; of two equally near ones
the even one. -/
def divideNearest (num den : Nat) : Nat :=
  let q := num / den
  let r := num % den
  if 2 * r < den then q
  else if den < 2 * r then q + 1
  else if q % 2 = 0 then q
  else q + 1

/-- Rounding goes to one of the two neighbours of the quotient. -/
theorem divideNearest_le (num den : Nat) :
    divideNearest num den ≤ num / den + 1 := by
  unfold divideNearest
  simp only
  split
  · omega
  · split
    · omega
    · split <;> omega

end TildeFormat
