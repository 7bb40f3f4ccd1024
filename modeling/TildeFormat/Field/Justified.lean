/-
Justification: texts spread over a column width. The pad points are the
gaps between neighbouring segments, one more before the first and after
the last when asked, and a single one in front when there would be none.
The width is `mincol`, or exceeds it by the least multiple of `colinc`
that makes room for the segments and `minpad` characters a pad point.

The padding is dealt out from the left: each pad point takes the whole
part of an equal share of what is left, so later points take the
remainders.
-/
import TildeFormat.Field.Padded

namespace TildeFormat

/-- A field segments are spread over. -/
structure JustifiedField where
  mincol : Int := 0
  colinc : Int := 1
  minpad : Int := 0
  padchar : Text := [' ']
  padBefore : Bool := false
  padAfter : Bool := false
deriving DecidableEq

namespace JustifiedField

/-- The pad points the flags and the gaps give. -/
def askedPoints (field : JustifiedField) (segments : List Text) : Nat :=
  (segments.length - 1) + field.padBefore.toNat + field.padAfter.toNat

/-- The pad points there are: with none asked for, the one in front. -/
def points (field : JustifiedField) (segments : List Text) : Nat :=
  if field.askedPoints segments = 0 then 1
  else field.askedPoints segments

/-- There is a pad point before the first segment. -/
def startsPadded (field : JustifiedField) (segments : List Text) : Bool :=
  field.padBefore || field.askedPoints segments == 0

/-- The total length of the segments. -/
def contentLength (segments : List Text) : Nat :=
  segments.flatten.length

/-- The width of the field around the segments. -/
def width (field : JustifiedField) (segments : List Text) :
    Except Fault Int :=
  let needed := contentLength segments + field.points segments * field.minpad
  if field.mincol < needed then do
    return field.mincol + (← blocks (needed - field.mincol) field.colinc)
  else return field.mincol

/-- A number dealt out over pad points from the left, each taking the
whole part of an equal share of what is left. -/
def shares : Nat → Int → List Int
  | 0, _ => []
  | points + 1, padding =>
    let share := Int.fdiv padding (points + 1)
    share :: shares points (padding - share)

/-- Segments with the fills between neighbours, and what is left of the
fills at the end. -/
def interleave : List Text → List Text → Text
  | [], fills => fills.flatten
  | [s], fills => s ++ fills.flatten
  | s :: rest, [] => s ++ interleave rest []
  | s :: rest, fill :: fills => s ++ fill ++ interleave rest fills

/-- The segments, spread over the width of the field. -/
def draw (field : JustifiedField) (segments : List Text) :
    Except Fault Text := do
  let padding := (← field.width segments) - contentLength segments
  let fills ← (shares (field.points segments) padding).mapM
    (repeated field.padchar)
  match field.startsPadded segments, fills with
  | true, first :: rest => return first ++ interleave segments rest
  | _, _ => return interleave segments fills

end JustifiedField

end TildeFormat
