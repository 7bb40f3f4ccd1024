/-
Values: what a template can be rendered against. Native values are the
nothing, truth values, numbers, texts, octets, moments and the
containers of them; a custom value brings its own texts and whichever of
the other capabilities it chooses to offer.

A stream is a sequence that can be walked through once; within a render
every value is read once, so there it is the list of its items.
-/
import TildeFormat.Binary64.Basic
import TildeFormat.Calendar
import TildeFormat.Decimal.Spelling

namespace TildeFormat

/-- An optional capability of a custom value: it may not have it, or
have it and give nothing. -/
inductive Offer (α : Type) where
  | absent
  | nothing
  | given (value : α)
deriving DecidableEq

/-- What the capability gives, if anything. -/
def Offer.value? {α : Type} : Offer α → Option α
  | absent => none
  | nothing => none
  | given a => some a

/-- A value an argument can have. -/
inductive Value where
  | nothing
  | truth (b : Bool)
  | int (n : Int)
  | float (x : Binary64)
  | str (t : Text)
  | list (items : List Value)
  | tuple (items : List Value)
  | stream (items : List Value)
  | range (start stop step : Int)
  | map (entries : List (Value × Value))
  | octets (bytes : List UInt8)
  | fraction (numerator : Int) (denominator : Nat)
  | decimal (x : Decimal)
  | moment (m : Moment)
  | custom (human machine : Text) (integer : Offer Int)
      (float : Offer Binary64) (sequence : Offer (List Value))

namespace Value

/-- How many numbers a range holds: the steps from `start` that stay on
this side of `stop`. -/
def rangeLength (start stop step : Int) : Nat :=
  if 0 < step then ((stop - start + step - 1) / step).toNat
  else if step < 0 then ((start - stop - step - 1) / (-step)).toNat
  else 0

/-- The numbers of a range, in order. -/
def rangeItems (start stop step : Int) : List Int :=
  (List.range (rangeLength start stop step)).map fun (i : Nat) =>
    start + (i : Int) * step

-- ======================================================= capabilities

/-- The integer a value is, if it is one. Truth values are not numbers,
and a fraction is no integer even when it is whole. -/
def integer? : Value → Option Int
  | int n => some n
  | custom _ _ integer _ _ => integer.value?
  | _ => none

/-- The elements of a value that is a sequence. Texts, octets and maps
are not sequences. -/
def elements? : Value → Option (List Value)
  | list items => some items
  | tuple items => some items
  | stream items => some items
  | range start stop step => some ((rangeItems start stop step).map int)
  | custom _ _ _ _ sequence => sequence.value?
  | _ => none

end Value

end TildeFormat
