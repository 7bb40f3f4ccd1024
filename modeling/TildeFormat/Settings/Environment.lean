/-
Settings from the environment. A setting is a variable of its name
behind a common start, in any case. A truth value is one of a few words
in any case. An integer is a numeral that is cleaned first: it may have
blanks around it, a plus, leading zeros, single underscores inside and a
fraction of zeros. All faults are reported, each with the setting it is
about.
-/
import TildeFormat.Settings
import TildeFormat.Decimal.Numeral
import TildeFormat.Text.Blank

namespace TildeFormat

/-- What is wrong with the value of a setting. -/
inductive SettingFault where
  | tooShort
  | tooLong
  | belowMinimum
  | notInteger
  | notTruth
deriving DecidableEq

/-- The code of a fault. -/
def SettingFault.code : SettingFault → String
  | tooShort => "string_too_short"
  | tooLong => "string_too_long"
  | belowMinimum => "greater_than_equal"
  | notInteger => "int_parsing"
  | notTruth => "bool_parsing"

namespace Settings

/-- Variables with their values, in the order in which they were set. -/
abbrev Environment := List (Text × Text)

/-- The variable of a setting, the last one set winning. -/
def assigned? (environment : Environment) (name : String) :
    Option Text :=
  let wanted := Text.ofString ("clformat_" ++ name)
  (environment.reverse.find? fun e =>
    e.1.map Character.toLower == wanted).map Prod.snd

-- ============================================================= reading

/-- Blanks that may stand around an integer. -/
def isMargin (c : Character) : Bool :=
  isBlank c && !(0x1C ≤ c.toNat && c.toNat ≤ 0x1F)

/-- A numeral without a plus in front, which excludes a minus. -/
def withoutPlus? : Text → Option Text
  | '+' :: '-' :: _ => none
  | '+' :: t => some t
  | t => some t

/-- A character that a numeral starts with when it has no leading zero. -/
def startsNumeral (c : Character) : Bool := c == '-' || c.isDigit

/-- What comes after leading zeros and the underscores among them, the
last of which is given. Only a numeral or the point of a fraction may
follow; the last one stays where nothing else is left before the
point. -/
def afterZeros? (last : Character) : Text → Option Text
  | [] => some [last]
  | c :: t =>
    if c == '0' || c == '_' then afterZeros? c t
    else if c == '.' then some (last :: c :: t)
    else if startsNumeral c then some (c :: t)
    else none

/-- A numeral without its leading zeros; those behind a minus stay. -/
def withoutZeros? : Text → Option Text
  | [] => none
  | '0' :: t => afterZeros? '0' t
  | c :: t => if startsNumeral c then some (c :: t) else none

/-- A numeral without a fraction that is one or more zeros. -/
def withoutFraction (t : Text) : Text :=
  let fraction := (t.dropWhile (· != .scalar '.')).drop 1
  if !fraction.isEmpty && fraction.all (· == .scalar '0') then
    t.takeWhile (· != .scalar '.')
  else t

/-- Two underscores in a row. -/
def hasDoubleUnderscore : Text → Bool
  | '_' :: '_' :: _ => true
  | _ :: t => hasDoubleUnderscore t
  | [] => false

/-- A numeral without its underscores, where they all stand single and
inside. -/
def withoutUnderscores (t : Text) : Text :=
  if t.head? == some (.scalar '_') || t.getLast? == some (.scalar '_')
      || hasDoubleUnderscore t then t
  else t.filter (· != .scalar '_')

/-- A natural number: digits, at least one. -/
def natural? (ds : Text) : Option Nat :=
  if !ds.isEmpty && ds.all Character.isDigit then some (Numeral.value ds)
  else none

/-- An integer. Zeros behind a minus are digits like others. -/
def integer? (t : Text) : Option Int := do
  let bare ← withoutPlus? (t.stripped isMargin)
  let numeral ← withoutZeros? bare
  match withoutUnderscores (withoutFraction numeral) with
  | '-' :: ds => (natural? ds).map fun n => -(n : Int)
  | ds => (natural? ds).map fun n => (n : Int)

/-- The words for yes and for no. -/
def truthWords : List (String × Bool) :=
  [ ("1", true), ("t", true), ("y", true), ("on", true), ("yes", true),
    ("true", true), ("0", false), ("f", false), ("n", false),
    ("no", false), ("off", false), ("false", false) ]

/-- A truth value. -/
def truth? (t : Text) : Option Bool :=
  truthWords.lookup (Text.string (t.map Character.toLower))

-- ============================================================ settings

/-- An integer that is at least `least`. -/
def integerFrom (least : Int) (t : Text) :
    Except SettingFault { n : Int // least ≤ n } :=
  match integer? t with
  | none => .error .notInteger
  | some n =>
    if h : least ≤ n then .ok ⟨n, h⟩ else .error .belowMinimum

/-- A single character. -/
def singleChar : Text → Except SettingFault Character
  | [] => .error .tooShort
  | [c] => .ok c
  | _ => .error .tooLong

/-- A truth value, or the fault of having none. -/
def truth (t : Text) : Except SettingFault Bool :=
  match truth? t with
  | some b => .ok b
  | none => .error .notTruth

/-- The value of a setting: the default when it has no variable. -/
def value {α : Type} (environment : Environment) (name : String)
    (default : α) (read : Text → Except SettingFault α) :
    Except SettingFault α :=
  match assigned? environment name with
  | none => .ok default
  | some t => read t

/-- The fault of a setting under its name, if it has one. -/
def faultOf {α : Type} (name : String) :
    Except SettingFault α → List (String × SettingFault)
  | .ok _ => []
  | .error fault => [(name, fault)]

/-- The settings an environment gives, or all that is wrong with them, by
name. -/
def ofEnvironment (environment : Environment) :
    Except (List (String × SettingFault)) Settings :=
  let maxsize := value environment "cache_maxsize"
    ⟨standard.cacheMaxsize, by decide⟩ (integerFrom 0)
  let char := value environment "comma_char" standard.commaChar singleChar
  let interval := value environment "comma_interval"
    ⟨standard.commaInterval, standard.commaInterval_pos⟩ (integerFrom 1)
  let debug := value environment "debug_mode" standard.debugMode truth
  match maxsize, char, interval, debug with
  | .ok m, .ok c, .ok i, .ok d =>
    .ok ⟨m.val.toNat, c, i.val, d, i.property⟩
  | _, _, _, _ =>
    .error (faultOf "cache_maxsize" maxsize ++ faultOf "comma_char" char
      ++ faultOf "comma_interval" interval ++ faultOf "debug_mode" debug)

end Settings

end TildeFormat
