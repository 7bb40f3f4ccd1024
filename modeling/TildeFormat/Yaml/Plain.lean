/-
Plain scalars as they stand in a document: words with single blanks
between them, over any number of lines. A scalar ends before a colon
that ends a word, before a comment, at a line that is indented no deeper
than what it stands in, and inside brackets at the characters that
divide or close them.
-/
import TildeFormat.Yaml.Character

namespace TildeFormat.Yaml

/-- The characters that end a word inside brackets. -/
def isDivider (c : Character) : Bool :=
  (Text.ofString ",?[]\x7b\x7d").contains c

/-- A character no word starts with. -/
def isIndicator (c : Character) : Bool :=
  (Text.ofString "-?:,[]\x7b\x7d#&*!|>'\"%@`").contains c

/-- A text that starts with a word. A dash starts one when something is
right behind it, and outside brackets so do a question mark and a
colon. -/
def startsWord (inside : Bool) : Text → Bool
  | [] => false
  | c :: t =>
    if endsWord c then false
    else if isIndicator c then
      !atWordEnd t && (c = '-' || (!inside && (c = '?' || c = ':')))
    else true

/-- A colon in front of a text ends a word when a blank comes next, and
inside brackets a comma or bracket. -/
def isColonEnd (inside : Bool) (after : Text) : Bool :=
  atWordEnd after
    || (inside && after.head?.any (Text.ofString ",[]\x7b\x7d").contains)

/-- A word, and the text after it. -/
def splitWord (inside : Bool) : Text → Text × Text
  | [] => ([], [])
  | c :: t =>
    if endsWord c || (c = ':' && isColonEnd inside t)
        || (inside && isDivider c) then ([], c :: t)
    else
      let (w, rest) := splitWord inside t
      (c :: w, rest)

/-- What is between two words of a scalar. -/
structure Gap where
  /-- The line ends passed, the first one apart from the others. -/
  lines : Option (Character × Text)
  /-- The text the gap counts as. -/
  filling : Text
  /-- The blanks of the line the gap ends on. -/
  column : Nat
  rest : Text

/-- The line ends and blanks after a first line end, up to the start or
end of a document: the line ends, the blanks of the last line and what
comes after. -/
def crossed (column : Nat) : Text → Text × Nat × Text
  | [] => ([], column, [])
  | c :: t =>
    if column = 0 && isDocumentLine (c :: t) then ([], 0, c :: t)
    else if c = ' ' then crossed (column + 1) t
    else if endsLine c then
      let (more, last) := crossed 0 t
      (c :: more, last)
    else ([], column, c :: t)

/-- The gap at the start of a text. -/
def gap (t : Text) : Gap :=
  let blanks := t.takeWhile (· == .scalar ' ')
  match t.dropWhile (· == .scalar ' ') with
  | [] => ⟨none, blanks, 0, []⟩
  | c :: after =>
    if endsLine c then
      let (more, column, rest) := crossed 0 after
      ⟨some (c, more), foldLines c more, column, rest⟩
    else ⟨none, blanks, 0, c :: after⟩

/-- A scalar goes on behind a gap when there is one, the scalar's lines
are indented by at least `indent`, and neither a comment nor a document
comes next. -/
def Gap.continues (inside : Bool) (indent : Nat) (g : Gap) : Bool :=
  !g.filling.isEmpty && g.rest.head? != some (.scalar '#')
    && (g.lines.isNone
      || ((inside || indent ≤ g.column)
        && !(g.column = 0 && isDocumentLine g.rest)))

/-- A plain scalar: its text, whether the last gap passed was over a line
end, and what comes after that gap. -/
structure Plain where
  text : Text
  crossed : Bool
  rest : Text

/-- The plain scalar at the start of a text. -/
def plain (inside : Bool) (indent : Nat) (t : Text) : Plain :=
  let w := (splitWord inside t).1
  let g := gap (splitWord inside t).2
  if _h : g.rest.length < t.length ∧ g.continues inside indent then
    let next := plain inside indent g.rest
    if next.text.isEmpty then ⟨w, g.lines.isSome, g.rest⟩
    else ⟨w ++ g.filling ++ next.text, next.crossed, next.rest⟩
  else ⟨w, g.lines.isSome, g.rest⟩
termination_by t.length
decreasing_by exact _h.1

end TildeFormat.Yaml
