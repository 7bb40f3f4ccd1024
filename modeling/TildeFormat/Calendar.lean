/-
Dates and moments of the calendar that has a leap day every fourth year,
but not in the hundreds, and again in the four hundreds. Years have four
digits. A moment is a date and a time of day, which may say how many
minutes it is ahead of the zero meridian.

The human form is the one that sorts, from the year down to the
fraction of a second. The machine form is the construction a moment is
read back from; it leaves out zeros at the end.
-/
import TildeFormat.Decimal.Numeral

namespace TildeFormat

-- ============================================================== faults

/-- A part of a moment that is out of bounds. The offset is given in
minutes. -/
inductive CalendarFault where
  | year (year : Nat)
  | month
  | day
  | hour
  | minute
  | second
  | offset (minutes : Int)
deriving DecidableEq

-- ================================================================ types

/-- A leap year. -/
def isLeapYear (year : Nat) : Bool :=
  year % 4 = 0 && (year % 100 != 0 || year % 400 = 0)

/-- How many days a month has. -/
def daysInMonth (year month : Nat) : Nat :=
  if month = 2 then if isLeapYear year then 29 else 28
  else if [4, 6, 9, 11].contains month then 30
  else 31

/-- A date. -/
structure Date where
  year : Nat
  month : Nat
  day : Nat
  year_mem : 1 ≤ year ∧ year ≤ 9999
  month_mem : 1 ≤ month ∧ month ≤ 12
  day_mem : 1 ≤ day ∧ day ≤ daysInMonth year month
deriving DecidableEq

/-- A time of day, to the millionth of a second. -/
structure TimeOfDay where
  hour : Nat
  minute : Nat
  second : Nat
  micro : Nat
  hour_lt : hour < 24
  minute_lt : minute < 60
  second_lt : second < 60
deriving DecidableEq

/-- Minutes ahead of the zero meridian: less than a day, either way. -/
structure ZoneOffset where
  minutes : Int
  bounded : -1440 < minutes ∧ minutes < 1440
deriving DecidableEq

/-- A date, by itself or with a time of day. -/
inductive Moment where
  | day (date : Date)
  | time (date : Date) (clock : TimeOfDay) (offset : Option ZoneOffset)
deriving DecidableEq

-- ======================================================= construction

/-- The date of a year, month and day. -/
def Date.of (year month day : Nat) : Except CalendarFault Date :=
  if hy : 1 ≤ year ∧ year ≤ 9999 then
    if hm : 1 ≤ month ∧ month ≤ 12 then
      if hd : 1 ≤ day ∧ day ≤ daysInMonth year month then
        .ok ⟨year, month, day, hy, hm, hd⟩
      else .error .day
    else .error .month
  else .error (.year year)

/-- The time of an hour, minute, second and millionths. -/
def TimeOfDay.of (hour minute second micro : Nat) :
    Except CalendarFault TimeOfDay :=
  if hh : hour < 24 then
    if hm : minute < 60 then
      if hs : second < 60 then
        .ok ⟨hour, minute, second, micro, hh, hm, hs⟩
      else .error .second
    else .error .minute
  else .error .hour

/-- The offset of so many minutes. -/
def ZoneOffset.of (minutes : Int) : Except CalendarFault ZoneOffset :=
  if h : -1440 < minutes ∧ minutes < 1440 then .ok ⟨minutes, h⟩
  else .error (.offset minutes)

-- ============================================================ equality

/-- The days before a date, from a fixed start. -/
def Date.dayNumber (date : Date) : Nat :=
  let before := date.year - 1
  let months := (List.range (date.month - 1)).foldl
    (fun days i => days + daysInMonth date.year (i + 1)) 0
  before * 365 + before / 4 - before / 100 + before / 400 + months
    + date.day

/-- The millionths of a second before a time of a date. -/
def TimeOfDay.microNumber (time : TimeOfDay) (date : Date) : Int :=
  (((date.dayNumber * 24 + time.hour) * 60 + time.minute) * 60
    + time.second) * 1000000 + time.micro

/-- Two moments are the same. With offsets they need not be on the same
date; a moment with an offset is never one without. -/
def Moment.same : Moment → Moment → Bool
  | day a, day b => a == b
  | time a s none, time b t none => a == b && s == t
  | time a s (some x), time b t (some y) =>
    s.microNumber a - x.minutes * 60000000
      == t.microNumber b - y.minutes * 60000000
  | _, _ => false

-- ========================================================== human form

/-- A date. -/
def Date.text (date : Date) : Text :=
  Numeral.filled 4 date.year ++ .scalar '-' :: Numeral.filled 2 date.month
    ++ .scalar '-' :: Numeral.filled 2 date.day

/-- A time of day. The fraction has six digits unless it is zero. -/
def TimeOfDay.text (time : TimeOfDay) : Text :=
  Numeral.filled 2 time.hour ++ .scalar ':' :: Numeral.filled 2 time.minute
    ++ .scalar ':' :: Numeral.filled 2 time.second
    ++ (if time.micro = 0 then []
      else .scalar '.' :: Numeral.filled 6 time.micro)

/-- An offset, with its sign. -/
def ZoneOffset.text (offset : ZoneOffset) : Text :=
  let minutes := offset.minutes.natAbs
  (if offset.minutes < 0 then Character.scalar '-' else .scalar '+')
    :: Numeral.filled 2 (minutes / 60)
    ++ .scalar ':' :: Numeral.filled 2 (minutes % 60)

/-- A moment. -/
def Moment.text : Moment → Text
  | day date => date.text
  | time date clock offset =>
    date.text ++ .scalar ' ' :: clock.text
      ++ (offset.map ZoneOffset.text).getD []

-- ======================================================== machine form

/-- The name of the calendar in the machine form. -/
def calendarName : Text := Text.ofString "datetime."

/-- A construction: a name and what it is given. -/
def construction (name : String) (parts : List Text) : Text :=
  calendarName ++ Text.ofString name
    ++ .scalar '(' :: (Text.join [',', ' '] parts ++ [.scalar ')'])

/-- A named part of a construction. -/
def namedPart (name : String) (t : Text) : Text :=
  Text.ofString name ++ .scalar '=' :: t

/-- A span of time. A negative one counts forward from whole days
back. -/
def spanText (minutes : Int) : Text :=
  let days := minutes.fdiv 1440
  let seconds := minutes.fmod 1440 * 60
  let parts :=
    (if days = 0 then [] else [namedPart "days" (Numeral.integer days)])
      ++ (if seconds = 0 then []
        else [namedPart "seconds" (Numeral.integer seconds)])
  construction "timedelta" (if parts.isEmpty then [['0']] else parts)

/-- An offset; that of the zero meridian has a name. -/
def ZoneOffset.machineText (offset : ZoneOffset) : Text :=
  if offset.minutes = 0 then calendarName ++ Text.ofString "timezone.utc"
  else construction "timezone" [spanText offset.minutes]

/-- The seconds and millionths of a time, as far as they are not zero. -/
def TimeOfDay.lastParts (time : TimeOfDay) : List Nat :=
  if time.micro != 0 then [time.second, time.micro]
  else if time.second != 0 then [time.second]
  else []

/-- A moment. -/
def Moment.machineText : Moment → Text
  | day date =>
    construction "date"
      ([date.year, date.month, date.day].map Numeral.digits)
  | time date clock offset =>
    construction "datetime"
      (([date.year, date.month, date.day, clock.hour, clock.minute]
          ++ clock.lastParts).map Numeral.digits
        ++ (offset.map fun x =>
          namedPart "tzinfo" x.machineText).toList)

-- ============================================================= message

/-- The text of a fault. -/
def CalendarFault.message : CalendarFault → String
  | year y => "year " ++ toString y ++ " is out of range"
  | month => "month must be in 1..12"
  | day => "day is out of range for month"
  | hour => "hour must be in 0..23"
  | minute => "minute must be in 0..59"
  | second => "second must be in 0..59"
  | offset minutes =>
    "offset must be a timedelta strictly between "
      ++ "-timedelta(hours=24) and timedelta(hours=24), not "
      ++ (spanText minutes).string ++ "."

end TildeFormat
