/-
Timestamps: words for dates and moments. A date alone has two digits for
its month and day; in front of a time of day one digit will do. The time
stands behind a T or blanks, to the second, and may have a fraction and
an offset from the zero meridian, for which Z stands as well.
-/
import TildeFormat.Calendar
import TildeFormat.Decimal.Power

namespace TildeFormat.Yaml

/-- Digits at the start of a text, as many as `least` to `most`, and what
comes after them. -/
def splitDigits (least most : Nat) (t : Text) : Option (Nat × Text) :=
  let ds := (t.take most).takeWhile Character.isDigit
  if least ≤ ds.length then some (Numeral.value ds, t.drop ds.length)
  else none

/-- What comes after a character. -/
def pastChar? (c : Character) : Text → Option Text
  | d :: t => if d = c then some t else none
  | [] => none

/-- The year, month and day at the start of a text, the last two in
`least` digits or more, and what comes after them. -/
def splitDate (least : Nat) (t : Text) :
    Option ((Nat × Nat × Nat) × Text) := do
  let (year, t) ← splitDigits 4 4 t
  let (month, t) ← splitDigits least 2 (← pastChar? '-' t)
  let (day, t) ← splitDigits least 2 (← pastChar? '-' t)
  some ((year, month, day), t)

/-- What comes after the mark between a date and a time: a T, or
blanks. -/
def pastTimeMark? : Text → Option Text
  | c :: t =>
    if c = 'T' || c = 't' then some t
    else if c = ' ' || c = '\t' then
      some (t.dropWhile fun c => c = ' ' || c = '\t')
    else none
  | [] => none

/-- The millionths at the start of a text, and what comes after the
fraction they are the first digits of. -/
def splitMicro : Text → Nat × Text
  | '.' :: t =>
    let ds := (t.takeWhile Character.isDigit).take 6
    (Numeral.value ds * power 10 (6 - ds.length),
      t.dropWhile Character.isDigit)
  | t => (0, t)

/-- The minutes of an offset that is all of a text: hours in one or two
digits, and minutes in two behind a colon. -/
def offsetMinutes? (t : Text) : Option Nat := do
  let (hours, rest) ← splitDigits 1 2 t
  if rest.isEmpty then some (hours * 60)
  else
    let (minutes, rest) ← splitDigits 2 2 (← pastChar? ':' rest)
    if rest.isEmpty then some (hours * 60 + minutes) else none

/-- The offset that is all of a text, in minutes, none of which may be
there. -/
def zone? (t : Text) : Option (Option Int) :=
  match t, t.dropWhile fun c : Character => c = ' ' || c = '\t' with
  | [], _ => some none
  | _, ['Z'] => some (some 0)
  | _, '+' :: rest => (offsetMinutes? rest).map fun (n : Nat) => some ↑n
  | _, '-' :: rest => (offsetMinutes? rest).map fun (n : Nat) => some (-↑n)
  | _, _ => none

/-- A word that has the form of a moment: the moment, or what is out of
bounds in it. The offset comes first, then the date, then the time. -/
def moment? (t : Text) : Option (Except CalendarFault Moment) :=
  match splitDate 2 t with
  | some ((year, month, day), []) =>
    some ((Date.of year month day).map .day)
  | _ => do
    let ((year, month, day), rest) ← splitDate 1 t
    let (hour, rest) ← splitDigits 1 2 (← pastTimeMark? rest)
    let (minute, rest) ← splitDigits 2 2 (← pastChar? ':' rest)
    let (second, rest) ← splitDigits 2 2 (← pastChar? ':' rest)
    let (micro, rest) := splitMicro rest
    let zone ← zone? rest
    some do
      let offset ← zone.mapM ZoneOffset.of
      let date ← Date.of year month day
      let time ← TimeOfDay.of hour minute second micro
      return .time date time offset

end TildeFormat.Yaml
