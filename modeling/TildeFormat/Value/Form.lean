/-
The two text forms of a value. The human form shows texts bare; the
machine form quotes them so that they can be read back, and names the
kind of a number where its digits alone would not tell it. Containers
have one shape in both: sequences in square brackets, maps in braces,
their parts in the same form as the whole.
-/
import TildeFormat.Value.Basic
import TildeFormat.Fault
import TildeFormat.Text.Quoted

namespace TildeFormat

/-- The form a value is asked for. -/
inductive Form where
  | human
  | machine
deriving DecidableEq

/-- A word of the output. -/
def word (s : String) : Text := Text.ofString s

/-- The parts of a container between its brackets. -/
def bracketed (left right : Character) (parts : List Text) : Text :=
  left :: (Text.join [',', ' '] parts ++ [right])

/-- A key and its value. -/
def entryText (key value : Text) : Text :=
  key ++ .scalar ':' :: .scalar ' ' :: value

namespace Value

/-- A truth value. -/
def truthText (b : Bool) : Text :=
  if b then word "True" else word "False"

/-- A fraction by itself: the denominator is left out when it is one. -/
def fractionText (numerator : Int) (denominator : Nat) : Text :=
  if denominator = 1 then Numeral.integer numerator
  else Numeral.integer numerator ++ .scalar '/' :: Numeral.digits denominator

/-- A fraction as the construction it is read back from. -/
def fractionMachineText (numerator : Int) (denominator : Nat) : Text :=
  word "Fraction(" ++ Numeral.integer numerator ++ [.scalar ',', .scalar ' ']
    ++ Numeral.digits denominator ++ [.scalar ')']

/-- A decimal number as the construction it is read back from. -/
def decimalMachineText (x : Decimal) : Text :=
  word "Decimal('" ++ x.text ++ [.scalar '\'', .scalar ')']

mutual

/-- The text of a value in a form. -/
def text (form : Form) : Value → Text
  | nothing => word "None"
  | truth b => truthText b
  | int n => Numeral.integer n
  | float x => x.text
  | str t =>
    match form with
    | .human => t
    | .machine => t.readable
  | list items => bracketed '[' ']' (texts form items)
  | tuple items => bracketed '[' ']' (texts form items)
  | stream items => bracketed '[' ']' (texts form items)
  | range start stop step =>
    bracketed '[' ']' ((rangeItems start stop step).map Numeral.integer)
  | map entries => bracketed '\x7b' '\x7d' (entryTexts form entries)
  | octets bytes => Text.displayedOctets bytes
  | fraction numerator denominator =>
    match form with
    | .human => fractionText numerator denominator
    | .machine => fractionMachineText numerator denominator
  | decimal x =>
    match form with
    | .human => x.text
    | .machine => decimalMachineText x
  | moment m =>
    match form with
    | .human => m.text
    | .machine => m.machineText
  | custom human machine _ _ _ =>
    match form with
    | .human => human
    | .machine => machine

/-- The texts of several values. -/
def texts (form : Form) : List Value → List Text
  | [] => []
  | v :: rest => text form v :: texts form rest

/-- The texts of the entries of a map. -/
def entryTexts (form : Form) : List (Value × Value) → List Text
  | [] => []
  | (k, v) :: rest =>
    entryText (text form k) (text form v) :: entryTexts form rest

end

/-- The quotient of integers a number is, if it is kept as one. -/
def quotient? : Value → Option (Int × Nat)
  | int n => some (n, 1)
  | fraction numerator denominator => some (numerator, denominator)
  | _ => none

/-- The nearest binary64 value of a number, or the fault of having
none. -/
def rounded (x? : Option Binary64) (fault : Fault) :
    Except Fault (Option Binary64) :=
  match x? with
  | some x => .ok (some x)
  | none => .error fault

/-- The binary64 value of a number; none for what is no number. -/
def float? : Value → Except Fault (Option Binary64)
  | int n => rounded (Binary64.ofInt? n) .integerBeyondRange
  | float x => .ok (some x)
  | fraction numerator denominator =>
    rounded (Binary64.ofQuotient? numerator denominator)
      .quotientBeyondRange
  | custom _ _ _ x _ => .ok x.value?
  | _ => .ok none

end Value

end TildeFormat
