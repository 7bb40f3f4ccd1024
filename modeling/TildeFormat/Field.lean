/-
A field: one thing a directive draws, with all that decides its text.
The renderer names the field first and draws it second, so what it asked
for stands in its trace next to what came of it.
-/
import TildeFormat.Field.Padded
import TildeFormat.Field.Grouped
import TildeFormat.Field.Fixed
import TildeFormat.Field.Justified

namespace TildeFormat

/-- What a directive asks to be drawn. -/
inductive Field where
  | padded (field : PaddedField) (text : Text)
  | decimal (field : DecimalField) (number : Int)
  | fixed (field : FixedField) (number : Binary64)
  | justified (field : JustifiedField) (segments : List Text)
  | copies (c : Character) (count : Int)
deriving DecidableEq

/-- The text of a field. -/
def Field.draw : Field → Except Fault Text
  | padded field text => field.draw text
  | decimal field number => field.draw number
  | fixed field number => field.draw number
  | justified field segments => field.draw segments
  | copies c count => repeated [c] count

end TildeFormat
