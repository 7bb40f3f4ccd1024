/-
Sets of characters given as a table of closed code point ranges. Every
character class of the library that goes beyond ASCII is such a table,
so that membership is one walk over data and nothing hangs on a class
the standard library knows in its ASCII part only.
-/

namespace TildeFormat

/-- Closed ranges of code points, in increasing order. -/
abbrev CodeRanges := List (Nat × Nat)

/-- A code point is in the set when one of the ranges spans it. -/
def CodeRanges.spans (ranges : CodeRanges) (code : Nat) : Bool :=
  ranges.any fun range => range.1 ≤ code && code ≤ range.2

end TildeFormat
