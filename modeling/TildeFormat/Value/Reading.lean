/-
Asking one argument for its capabilities, any number of times. Most
values answer the same every time. A stream is walked through by the
first question that needs its items: as the argument itself it is kept
as a tuple, but inside a container the walk leaves it empty.
-/
import TildeFormat.Value.Form

namespace TildeFormat

namespace Value

mutual

/-- What is left of a part of a container once its text was taken. -/
def drained : Value → Value
  | stream _ => stream []
  | list items => list (drainedAll items)
  | tuple items => tuple (drainedAll items)
  | map entries => map (drainedEntries entries)
  | nothing => nothing
  | truth b => truth b
  | int n => int n
  | float x => float x
  | str t => str t
  | range a b c => range a b c
  | octets bytes => octets bytes
  | fraction n d => fraction n d
  | decimal x => decimal x
  | moment m => moment m
  | custom h m i f s => custom h m i f s

/-- What is left of several parts. -/
def drainedAll : List Value → List Value
  | [] => []
  | v :: rest => drained v :: drainedAll rest

/-- What is left of the entries of a map. -/
def drainedEntries : List (Value × Value) → List (Value × Value)
  | [] => []
  | (k, v) :: rest => (drained k, drained v) :: drainedEntries rest

end

/-- What is left of an argument once its text was taken: as a stream it
keeps its items, themselves drained. -/
def afterText : Value → Value
  | stream items => tuple (drainedAll items)
  | v => drained v

/-- What is left of an argument once its elements were taken. -/
def afterElements : Value → Value
  | stream items => tuple items
  | v => v

end Value

/-- A question an argument can be asked. -/
inductive Capability where
  | text (form : Form)
  | integer
  | float
  | sequence
deriving DecidableEq

/-- An answer of an argument. -/
inductive Answer where
  | text (t : Text)
  | integer (n : Option Int)
  | float (x : Except Fault (Option Binary64))
  | sequence (items : Option (List Value))

/-- An argument's answer, and what is left of the argument. -/
def Value.ask (v : Value) : Capability → Answer × Value
  | .text form => (.text (v.text form), v.afterText)
  | .integer => (.integer v.integer?, v)
  | .float => (.float v.float?, v)
  | .sequence => (.sequence v.elements?, v.afterElements)

end TildeFormat
