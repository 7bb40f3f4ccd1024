/-
White space. A character is blank when its bidirectional class is WS, B
or S or its category is Zs: the set a continuation line skips and a
decoded scalar is stripped of. Line boundaries are the smaller set that
ends a line of a terminal listing.
-/
import TildeFormat.Text.Character
import TildeFormat.Text.Ranges

namespace TildeFormat

/-- The blank characters. -/
def blankRanges : CodeRanges :=
  [
    (0x09, 0x0D), (0x1C, 0x20), (0x85, 0x85), (0xA0, 0xA0),
    (0x1680, 0x1680), (0x2000, 0x200A), (0x2028, 0x2029),
    (0x202F, 0x202F), (0x205F, 0x205F), (0x3000, 0x3000)]

/-- White space of any script. -/
def isBlank (c : Character) : Bool := blankRanges.spans c.toNat

/-- The characters that end a line. -/
def lineBoundaryRanges : CodeRanges :=
  [(0x0A, 0x0D), (0x1C, 0x1E), (0x85, 0x85), (0x2028, 0x2029)]

/-- A line of a listing ends after such a character. -/
def isLineBoundary (c : Character) : Bool := lineBoundaryRanges.spans c.toNat

end TildeFormat
