/-
Patterns: what a beginning of a text can look like. A pattern answers
with every split of the text into a beginning that fits and the rest, in
the order in which the splits are to be tried: longest repetition first,
and the first of two alternatives before the second.

A rule is a row of patterns, each with the class of its part. It takes
the first split under which all parts fit one after the other, going
back to later splits of earlier parts where a later part needs it.
-/
import TildeFormat.Text.Basic

namespace TildeFormat

/-- The splits of a text, in order of preference. -/
abbrev Pattern := Text → List (Text × Text)

namespace Pattern

/-- One character that passes. -/
def char (test : Character → Bool) : Pattern
  | c :: t => if test c then [([c], t)] else []
  | [] => []

/-- Any number of characters that pass, as many as there are first. -/
def many (test : Character → Bool) : Pattern
  | c :: t =>
    if test c then
      (many test t).map (fun s => (c :: s.1, s.2)) ++ [([], c :: t)]
    else [([], c :: t)]
  | [] => [([], [])]

/-- One pattern after another. -/
def seq (p q : Pattern) : Pattern := fun t =>
  (p t).flatMap fun s => (q s.2).map fun r => (s.1 ++ r.1, r.2)

/-- One pattern or, after its splits, another. -/
def alt (p q : Pattern) : Pattern := fun t => p t ++ q t

/-- A pattern or nothing. -/
def optional (p : Pattern) : Pattern := fun t => p t ++ [([], t)]

/-- At least one character that passes. -/
def some (test : Character → Bool) : Pattern := seq (char test) (many test)

/-- A pattern any number of times, as often as it fits first. A fit of
nothing is not repeated. -/
def star (p : Pattern) : Pattern := fun t =>
  (p t).flatMap (fun s =>
    if s.2.length < t.length then
      (star p s.2).map fun r => (s.1 ++ r.1, r.2)
    else [])
    ++ [([], t)]
termination_by t => t.length

end Pattern

/-- A row of patterns with the classes of their parts. -/
abbrev Rule (κ : Type) := List (κ × Pattern)

/-- The parts of the first split that fits a rule, and the rest. -/
def Rule.match? {κ : Type} :
    Rule κ → Text → Option (List (κ × Text) × Text)
  | [], t => some ([], t)
  | (kind, p) :: rule, t =>
    (p t).findSome? fun s =>
      (Rule.match? rule s.2).map fun r => ((kind, s.1) :: r.1, r.2)

end TildeFormat
