/-
Plain scalars: words without quotes. What a word stands for is told by
its form alone: nothing, a truth value, an integer, a number with a
point, a moment, or the text itself. Underscores between digits are left
out, and numbers may be written in base sixty with colons between their
places. A word may have the form of a value and stand for none, such as
a numeral that is all underscores or a date that no calendar has.

Two words, `=` and `<<`, have a role in the keys of a map and stand for
no value elsewhere.
-/
import TildeFormat.Value.Basic
import TildeFormat.Yaml.Refusal
import TildeFormat.Yaml.Timestamp

namespace TildeFormat.Yaml

-- =============================================================== words

/-- The words for nothing; the empty word is one of them. -/
def nothingWords : List String := ["", "~", "null", "Null", "NULL"]

/-- The words for truth values. -/
def truthWords : List (String × Bool) :=
  [ ("yes", true), ("Yes", true), ("YES", true),
    ("no", false), ("No", false), ("NO", false),
    ("true", true), ("True", true), ("TRUE", true),
    ("false", false), ("False", false), ("FALSE", false),
    ("on", true), ("On", true), ("ON", true),
    ("off", false), ("Off", false), ("OFF", false) ]

/-- The words for infinity, behind an optional sign. -/
def infinityWords : List String := [".inf", ".Inf", ".INF"]

/-- The words for what is not a number. -/
def nanWords : List String := [".nan", ".NaN", ".NAN"]

/-- The key whose value is a map, or a list of maps, with entries to
take over. -/
def mergeWord : Text := ['<', '<']

/-- The key of a map that stands for the map's own value. -/
def valueWord : Text := ['=']

-- ============================================================= numbers

/-- A sign in front of a word: whether it is a minus, and the rest. -/
def signed : Text → Bool × Text
  | '-' :: t => (true, t)
  | '+' :: t => (false, t)
  | t => (false, t)

/-- Digits of a base, with underscores anywhere among them. -/
def isDigitIn (base : Nat) (c : Character) : Bool :=
  c == '_'
    || ((Text.ofString "0123456789abcdef").take base).contains c.toLower

/-- Digits without the underscores among them. -/
def withoutUnderscores (ds : Text) : Text := ds.filter (· != .scalar '_')

/-- A place of base sixty behind the first: one or two digits. -/
def isSixtieth : Text → Bool
  | [d] => d.isDigit
  | [t, d] => t.isDigit && t.toNat ≤ 0x35 && d.isDigit
  | _ => false

/-- The places of a number in base sixty, or in base ten as the only
place: a digit first, then digits and underscores. -/
def places? (t : Text) : Option (List Text) :=
  match Text.splitAt ':' t with
  | (d :: ds) :: rest =>
    if d.isDigit && ds.all (isDigitIn 10) && rest.all isSixtieth then
      some ((d :: ds) :: rest)
    else none
  | _ => none

/-- The number the places denote. -/
def valueOfPlaces (places : List Text) : Nat :=
  places.foldl
    (fun n place => n * 60 + Numeral.value (withoutUnderscores place)) 0

/-- The digits of a base behind its mark, without underscores; the mark
alone is no numeral. -/
def marked? (base : Nat) (ds : Text) : Option Text :=
  if !ds.isEmpty && ds.all (isDigitIn base) then
    some (withoutUnderscores ds)
  else none

/-- The number some digits of a base denote, of which there has to be
one. -/
def numeral (base : Nat) (ds : Text) : Except Fault Nat :=
  if ds.isEmpty then .error (.emptyNumeral base)
  else .ok (Numeral.valueIn base ds)

/-- A word for a natural number. A leading zero marks base eight, and is
itself a digit there. -/
def natural? : Text → Option (Except Fault Nat)
  | ['0'] => some (.ok 0)
  | '0' :: 'b' :: ds => (marked? 2 ds).map (numeral 2)
  | '0' :: 'x' :: ds => (marked? 16 ds).map (numeral 16)
  | '0' :: ds => (marked? 8 ds).map fun ds => numeral 8 ('0' :: ds)
  | t => (places? t).map fun places => .ok (valueOfPlaces places)

/-- A word for an integer. -/
def integer? (t : Text) : Option (Except Fault Int) :=
  let (negative, rest) := signed t
  (natural? rest).map fun n => n.map fun n =>
    if negative then -(n : Int) else n

/-- An exponent: a mark, a sign and digits. No exponent is zero. -/
def exponent? : Text → Option Int
  | [] => some 0
  | mark :: sign :: d :: ds =>
    if (mark == 'e' || mark == 'E') && (sign == '-' || sign == '+')
        && (d :: ds).all Character.isDigit then
      let n : Int := Numeral.value (d :: ds)
      some (if sign == '-' then -n else n)
    else none
  | _ => none

/-- The value nearest to a decimal, infinite beyond the finite range. A
point that far out that every such number is infinite or zero is not
computed with. -/
def nearest (x : Scientific) : Binary64 :=
  if x.coefficient = 0 || x.point < -400 then .finite false Magnitude.zero
  else if 400 < x.point then .infinite false
  else
    match Magnitude.nearest? x.numerator x.denominator with
    | some m => .finite false m
    | none => .infinite false

/-- The sum of places of base sixty, the last one first, rounded with
every place; `weight` is that of the first one given. -/
def sumOfPlaces (sum : Binary64) (weight : Nat) :
    List Binary64 → Except Fault Binary64
  | [] => .ok sum
  | place :: places =>
    match Binary64.ofInt? weight with
    | none => .error .integerBeyondRange
    | some factor =>
      sumOfPlaces (sum.add (place.mul factor)) (weight * 60) places

/-- A word for a number with a point. The places before the point are
those of an integer, and only a single one may have an exponent behind
the fraction. They may be left out when there is no sign and the
fraction starts with a digit. -/
def fraction? (t : Text) : Option (Except Fault Binary64) :=
  let (negative, rest) := signed t
  let whole := rest.takeWhile (· != .scalar '.')
  match rest.dropWhile (· != .scalar '.') with
  | [] => none
  | _ :: after =>
    let digits := withoutUnderscores (after.takeWhile (isDigitIn 10))
    let tail := after.dropWhile (isDigitIn 10)
    let places? :=
      if whole.isEmpty then
        if rest.length = t.length && after.head?.any Character.isDigit then
          some [[]]
        else none
      else places? whole
    match places?.map fun places => places.reverse.map withoutUnderscores,
        exponent? tail with
    | some (last :: others), some exponent =>
      if !others.isEmpty && !tail.isEmpty then none
      else
        let last := nearest
          ⟨Numeral.value (last ++ digits), exponent - digits.length⟩
        let others := others.map fun place =>
          nearest ⟨Numeral.value place, 0⟩
        some ((sumOfPlaces (.finite false Magnitude.zero) 1
          (last :: others)).map fun sum =>
            if negative then sum.opposite else sum)
    | _, _ => none

/-- A word for any value of binary64. -/
def float? (t : Text) : Option (Except Fault Binary64) :=
  let (negative, rest) := signed t
  if infinityWords.contains (Text.string rest) then
    some (.ok (.infinite negative))
  else if nanWords.contains (Text.string t) then some (.ok .nan)
  else fraction? t

-- =============================================================== value

/-- The value of a plain scalar. -/
def plainValue (t : Text) : Read Value :=
  let s := Text.string t
  if nothingWords.contains s then .ok .nothing
  else if t == mergeWord || t == valueWord then .error .unreadable
  else
    match truthWords.lookup s, integer? t, float? t, moment? t with
    | some b, _, _, _ => .ok (.truth b)
    | _, some n, _, _ => (faultless n).map .int
    | _, _, some x, _ => (faultless x).map .float
    | _, _, _, some m => (faultless (m.mapError .calendar)).map .moment
    | none, none, none, none => .ok (.str t)

end TildeFormat.Yaml
