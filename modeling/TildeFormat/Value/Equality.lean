/-
When two values are equal. Numbers compare by exact value across their
kinds, truth values counting as zero and one; sequences compare item by
item within their own kind; ranges compare by the numbers they hold and
maps without regard to order. NaN equals nothing, and neither do
streams and custom values, which are equal only to themselves.
-/
import TildeFormat.Value.Form

namespace TildeFormat

namespace Value

-- ============================================================= numbers

/-- The exact value of a finite number that is no decimal. -/
def ratio? : Value → Option (Int × Nat)
  | truth b => some (if b then 1 else 0, 1)
  | int n => some (n, 1)
  | float (.finite negative x) =>
    some (if negative then -(x.units : Int) else x.units, unitsPerOne)
  | fraction numerator denominator => some (numerator, denominator)
  | _ => none

/-- A number as a decimal, if it is one or infinite. -/
def decimal? : Value → Option Decimal
  | decimal x => some x
  | float (.infinite negative) => some (.infinite negative)
  | _ => none

/-- Two values are the same number. -/
def sameNumber (a b : Value) : Bool :=
  match a.decimal?, b.decimal?, a.ratio?, b.ratio? with
  | some x, some y, _, _ => x.same y
  | some x, _, _, some (m, e) => x.isQuotient m e
  | _, some y, some (n, d), _ => y.isQuotient n d
  | _, _, some (n, d), some (m, e) => n * (e : Int) == m * (d : Int)
  | _, _, _, _ => false

/-- Two ranges hold the same numbers: as many, from the same one on and,
if there are more, with the same step. -/
def sameRange (a b c d e f : Int) : Bool :=
  let count := rangeLength a b c
  count == rangeLength d e f
    && (count == 0 || (a == d && (count == 1 || c == f)))

-- ============================================================ equality

mutual

/-- Two values are equal. -/
def same : Value → Value → Bool
  | nothing, nothing => true
  | str s, str t => s == t
  | octets s, octets t => s == t
  | list xs, list ys => sameAll xs ys
  | tuple xs, tuple ys => sameAll xs ys
  | range a b c, range d e f => sameRange a b c d e f
  | moment a, moment b => a.same b
  | map es, map fs => es.length == fs.length && sameEntries es fs
  | a, b => sameNumber a b

/-- Two sequences are equal item by item. -/
def sameAll : List Value → List Value → Bool
  | [], [] => true
  | x :: xs, y :: ys => same x y && sameAll xs ys
  | _, _ => false

/-- Every entry of the first map is one of the second. -/
def sameEntries : List (Value × Value) → List (Value × Value) → Bool
  | [], _ => true
  | (k, v) :: es, fs =>
    fs.any (fun f => same k f.1 && same v f.2) && sameEntries es fs

end

-- ================================================================ maps

/-- The entries with the value at a key set: a key that is the same keeps
its place and its spelling, a new one goes to the end. -/
def setEntry (sameKey : Value → Value → Bool) (key value : Value) :
    List (Value × Value) → List (Value × Value)
  | [] => [(key, value)]
  | (k, v) :: rest =>
    if sameKey k key then (k, value) :: rest
    else (k, v) :: setEntry sameKey key value rest

/-- The map of pairs given in order, later ones winning. -/
def mapOfPairs (sameKey : Value → Value → Bool)
    (pairs : List (Value × Value)) : Value :=
  map (pairs.foldl (fun es p => setEntry sameKey p.1 p.2 es) [])

end Value

end TildeFormat
