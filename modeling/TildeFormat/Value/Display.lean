/-
The displayed form of a value, for messages: unlike the text forms it
tells lists from tuples and keeps ranges as they were given.
-/
import TildeFormat.Value.Form

namespace TildeFormat.Value

/-- A range by its bounds, and by its step unless that is one. -/
def rangeDisplay (start stop step : Int) : Text :=
  let bounds := [Numeral.integer start, Numeral.integer stop]
  let parts := if step = 1 then bounds else bounds ++ [Numeral.integer step]
  word "range" ++ bracketed '(' ')' parts

/-- Displayed parts as a tuple: a single one keeps a comma after it. -/
def tupleDisplay : List Text → Text
  | [part] => '(' :: (part ++ [.scalar ',', .scalar ')'])
  | parts => bracketed '(' ')' parts

mutual

/-- The displayed form of a value. -/
def display : Value → Text
  | str t => t.displayed
  | list items => bracketed '[' ']' (displays items)
  | tuple items => tupleDisplay (displays items)
  | stream _ => word "<stream>"
  | range start stop step => rangeDisplay start stop step
  | map entries => bracketed '\x7b' '\x7d' (displayEntries entries)
  | nothing => word "None"
  | truth b => truthText b
  | int n => Numeral.integer n
  | float x => x.text
  | octets bytes => Text.displayedOctets bytes
  | fraction numerator denominator =>
    fractionMachineText numerator denominator
  | decimal x => decimalMachineText x
  | moment m => m.machineText
  | custom _ machine _ _ _ => machine

/-- The displayed forms of several values. -/
def displays : List Value → List Text
  | [] => []
  | v :: rest => display v :: displays rest

/-- The displayed forms of the entries of a map. -/
def displayEntries : List (Value × Value) → List Text
  | [] => []
  | (k, v) :: rest =>
    entryText (display k) (display v) :: displayEntries rest

end

end TildeFormat.Value
