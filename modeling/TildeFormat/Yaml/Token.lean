/-
The tokens of a document. Brackets, dashes, colons and scalars are
tokens as they stand; the indentation of a line opens and closes the
lists and maps that have no brackets.

A key of a map is told only by the colon behind it, so a reader keeps in
mind where the last token that may turn out a key began, one such place
for every bracket it is in. The colon then marks that place. A key stays
on one line and is not long, and a token that has to be a key, because
it starts a line of its map, is an error when no colon comes.
-/
import TildeFormat.Yaml.Plain
import TildeFormat.Yaml.Quoted

namespace TildeFormat.Yaml

/-- A token. The two starts open a list or map without brackets, and the
end closes either. -/
inductive Token where
  | documentStart
  | documentEnd
  | listStart
  | mapStart
  | blockEnd
  | entry
  | key
  | value
  | listOpen
  | listClose
  | mapOpen
  | mapClose
  | comma
  | scalar (plain : Bool) (text : Text)
deriving DecidableEq

-- =============================================================== place

/-- A place in a document. -/
structure Spot where
  index : Nat := 0
  line : Nat := 0
  column : Nat := 0

/-- The place behind a character. -/
def Spot.past (s : Spot) (c : Character) : Spot :=
  if endsLine c then ⟨s.index + 1, s.line + 1, 0⟩
  else if c.toNat = 0xFEFF then ⟨s.index + 1, s.line, s.column⟩
  else ⟨s.index + 1, s.line, s.column + 1⟩

/-- Where a key may have started: its place, the tokens before it, and
whether it has to be one. -/
structure Candidate where
  spot : Spot
  before : Nat
  required : Bool

/-- The farthest a colon may be behind the start of its key. -/
def keyLimit : Nat := 1024

-- ============================================================== reader

/-- A reader of tokens: what it has still to read and where it is, the
indentations of the lists and maps it is in, the innermost first, a
candidate for every bracket it is in and one for what is outside of
them, whether a key may start here, and the tokens so far, the last one
first. -/
structure Reader where
  rest : Text
  spot : Spot := {}
  indents : List Nat := []
  candidates : List (Option Candidate) := [none]
  keyAllowed : Bool := true
  tokens : List Token := []

namespace Reader

/-- Inside of brackets. -/
def inside (r : Reader) : Bool := 1 < r.candidates.length

/-- The reader moved to a later rest of its text. -/
def movedTo (r : Reader) (rest : Text) : Reader :=
  let passed := r.rest.take (r.rest.length - rest.length)
  { r with rest, spot := passed.foldl Spot.past r.spot }

/-- The reader with another token. -/
def emit (r : Reader) (token : Token) : Reader :=
  { r with tokens := token :: r.tokens }

/-- What comes after blanks, comments and line ends, and whether there
was a line end. -/
def skip (comment : Bool) : Text → Text × Bool
  | [] => ([], false)
  | c :: t =>
    if endsLine c then ((skip false t).1, true)
    else if comment || c = ' ' then skip comment t
    else if c = '#' then skip true t
    else (c :: t, false)

/-- The reader at the next token. Outside of brackets a key may start on
every new line. -/
def skipped (r : Reader) : Reader :=
  let (rest, crossed) := skip false r.rest
  let r := r.movedTo rest
  if crossed && !r.inside then { r with keyAllowed := true } else r

-- ========================================================== candidates

/-- A candidate that is too far away for a colon is none any more; one
that has to be a key is an error. -/
def Candidate.keep (here : Spot) (k : Candidate) :
    Read (Option Candidate) :=
  if k.spot.line = here.line ∧ here.index - k.spot.index ≤ keyLimit then
    .ok (some k)
  else if k.required then .error .unreadable
  else .ok none

/-- The reader without the candidates that are too far away. -/
def refreshed (r : Reader) : Read Reader := do
  let candidates ← r.candidates.mapM fun
    | none => .ok none
    | some k => Candidate.keep r.spot k
  return { r with candidates }

/-- The reader without the innermost candidate, which must not have to be
a key. -/
def dropCandidate (r : Reader) : Read Reader :=
  match r.candidates with
  | some k :: outer =>
    if k.required then .error .unreadable
    else .ok { r with candidates := none :: outer }
  | _ => .ok r

/-- The reader with a candidate at its place, if a key may start
there. -/
def markCandidate (r : Reader) : Read Reader :=
  if r.keyAllowed then do
    let r ← r.dropCandidate
    let required := !r.inside && r.indents.head? == some r.spot.column
    let k : Candidate := ⟨r.spot, r.tokens.length, required⟩
    return { r with candidates := some k :: r.candidates.drop 1 }
  else .ok r

-- ======================================================== indentation

/-- The reader out of the lists and maps that are indented deeper than a
column. Inside of brackets indentation counts for nothing. -/
def dedented (r : Reader) (column : Nat) : Reader :=
  if r.inside then r
  else
    let closed := r.indents.takeWhile (column < ·)
    { r with
      indents := r.indents.drop closed.length
      tokens := closed.map (fun _ => .blockEnd) ++ r.tokens }

/-- The reader out of all lists and maps. -/
def unindented (r : Reader) : Reader :=
  if r.inside then r
  else
    { r with
      indents := []
      tokens := r.indents.map (fun _ => .blockEnd) ++ r.tokens }

/-- Whether a list or map at a column is one that is not yet open. -/
def opensAt (r : Reader) (column : Nat) : Bool :=
  match r.indents with
  | [] => true
  | indent :: _ => indent < column

/-- The reader in a list or map at its column, opened by a token when it
is not open yet. -/
def indented (r : Reader) (token : Token) : Reader :=
  if r.opensAt r.spot.column then
    { r.emit token with indents := r.spot.column :: r.indents }
  else r

-- ============================================================== tokens

/-- Past the first characters, which are a token. -/
def mark (r : Reader) (length : Nat) (token : Token) : Reader :=
  (r.movedTo (r.rest.drop length)).emit token

/-- The line that starts or ends a document. -/
def documentLine (r : Reader) (token : Token) : Read Reader := do
  let r ← r.unindented.dropCandidate
  return { r with keyAllowed := false }.mark 3 token

/-- An opening bracket. -/
def openBracket (r : Reader) (token : Token) : Read Reader := do
  let r ← r.markCandidate
  let r := { r with candidates := none :: r.candidates, keyAllowed := true }
  return r.mark 1 token

/-- A closing bracket. There has to be an open one. -/
def closeBracket (r : Reader) (token : Token) : Read Reader := do
  let r ← r.dropCandidate
  if r.inside then
    let r :=
      { r with candidates := r.candidates.drop 1, keyAllowed := false }
    return r.mark 1 token
  else .error .unreadable

/-- A comma. -/
def comma (r : Reader) : Read Reader := do
  let r ← r.dropCandidate
  return { r with keyAllowed := true }.mark 1 .comma

/-- A dash that starts an entry of a list. -/
def entry (r : Reader) : Read Reader :=
  if !r.inside && !r.keyAllowed then .error .unreadable
  else do
    let r := if r.inside then r else r.indented .listStart
    let r ← r.dropCandidate
    return { r with keyAllowed := true }.mark 1 .entry

/-- A key or value that stands by itself: it needs a place where a key
may start, and opens a map there. -/
def alone (r : Reader) (token : Token) : Read Reader :=
  if !r.inside && !r.keyAllowed then .error .unreadable
  else do
    let r := if r.inside then r else r.indented .mapStart
    let r ← r.dropCandidate
    return { r with keyAllowed := !r.inside }.mark 1 token

/-- Tokens put in front of all but the first `before`. -/
def insertTokens (r : Reader) (before : Nat) (inserted : List Token) :
    Reader :=
  let later := r.tokens.length - before
  { r with
    tokens :=
      r.tokens.take later ++ inserted.reverse ++ r.tokens.drop later }

/-- A colon. Behind a candidate it makes a key of it, and the key opens a
map where none is open at its column. -/
def value (r : Reader) : Read Reader :=
  match r.candidates with
  | some k :: outer =>
    let r := { r with candidates := none :: outer, keyAllowed := false }
    let opens := !r.inside && r.opensAt k.spot.column
    let r :=
      if opens then
        { r.insertTokens k.before [.mapStart, .key] with
          indents := k.spot.column :: r.indents }
      else r.insertTokens k.before [.key]
    .ok (r.mark 1 .value)
  | _ => r.alone .value

/-- A quoted scalar. -/
def quotedScalar (r : Reader) (quote : Character) (t : Text) :
    Read Reader := do
  let r ← r.markCandidate
  let (text, rest) ← quoted quote t
  return ({ r with keyAllowed := false }.movedTo rest).emit
    (.scalar false text)

/-- A plain scalar. A key may start behind it when it ends on a later
line. -/
def plainScalar (r : Reader) : Read Reader := do
  let r ← r.markCandidate
  let indent :=
    match r.indents with
    | [] => 0
    | indent :: _ => indent + 1
  let p := plain r.inside indent r.rest
  return ({ r with keyAllowed := p.crossed }.movedTo p.rest).emit
    (.scalar true p.text)

/-- The reader past the next token, whose first character and the text
behind it are given. -/
def next (r : Reader) (c : Character) (t : Text) : Read Reader :=
  let atLineStart := r.spot.column = 0
  if atLineStart && startsWithMark "---" (c :: t) then
    r.documentLine .documentStart
  else if atLineStart && startsWithMark "..." (c :: t) then
    r.documentLine .documentEnd
  else if c = '[' then r.openBracket .listOpen
  else if c = '\x7b' then r.openBracket .mapOpen
  else if c = ']' then r.closeBracket .listClose
  else if c = '\x7d' then r.closeBracket .mapClose
  else if c = ',' then r.comma
  else if c = '-' && atWordEnd t then r.entry
  else if c = '?' && (r.inside || atWordEnd t) then r.alone .key
  else if c = ':' && (r.inside || atWordEnd t) then r.value
  else if c = '\'' || c = '"' then r.quotedScalar c t
  else if startsWord r.inside (c :: t) then r.plainScalar
  else .error .unreadable

/-- The tokens of the document from where the reader is. -/
def run (r : Reader) : Read (List Token) := do
  let s ← r.skipped.refreshed
  let s := s.dedented s.spot.column
  match s.rest with
  | [] =>
    let s ← s.unindented.dropCandidate
    return s.tokens.reverse
  | c :: t =>
    let s ← s.next c t
    if s.rest.length < r.rest.length then run s else .error .unreadable
termination_by r.rest.length

end Reader

/-- The tokens of a document. -/
def Token.ofText (t : Text) : Read (List Token) :=
  if t.all isAllowed then
    Reader.run { rest := unifyLines (Text.withoutMark t) }
  else .error .unreadable

end TildeFormat.Yaml
