/-
Quoted scalars. In single quotes a quote is written twice and nothing
else is special; in double quotes a backslash starts an escape, and one
at the end of a line joins the line with the next. Blanks around a line
end are left out in both.

A quoted scalar is read in two steps: first its parts up to the closing
quote, each character told from the blanks and line ends that may go,
then its text.
-/
import TildeFormat.Yaml.Character
import TildeFormat.Yaml.Refusal

namespace TildeFormat.Yaml

/-- A part of a quoted scalar. A joint is a line end behind a
backslash. -/
inductive QuotedPart where
  | char (c : Character)
  | blank (c : Character)
  | lineEnd (c : Character)
  | joint

-- =============================================================== parts

/-- The parts of a scalar and the text after it. -/
abbrev QuotedParts := Read (List QuotedPart × Text)

/-- A part in front of others. -/
def QuotedPart.before (part : QuotedPart) : QuotedParts → QuotedParts
  | .ok (parts, rest) => .ok (part :: parts, rest)
  | .error refusal => .error refusal

/-- A character that is not special, in front of the parts of what comes
after it. No line of a scalar may be the start or end of a document. -/
def plainPart (c : Character) (after : Text) (parts : QuotedParts) :
    QuotedParts :=
  if endsLine c then
    if isDocumentLine after then .error .unreadable
    else QuotedPart.before (.lineEnd c) parts
  else if endsWord c then QuotedPart.before (.blank c) parts
  else QuotedPart.before (.char c) parts

/-- The parts up to a single quote. -/
def singleQuoted : Text → QuotedParts
  | [] => .error .unreadable
  | '\'' :: '\'' :: t => QuotedPart.before (.char '\'') (singleQuoted t)
  | '\'' :: t => .ok ([], t)
  | c :: t => plainPart c t (singleQuoted t)

/-- The escapes of one character. -/
def escapedChars : List (Character × Character) :=
  [ ('0', '\x00'), ('a', '\x07'), ('b', '\x08'), ('t', '\t'),
    ('\t', '\t'), ('n', '\n'), ('v', '\x0b'), ('f', '\x0c'),
    ('r', '\r'), ('e', '\x1b'), (' ', ' '), ('"', '"'), ('\\', '\\'),
    ('/', '/'), ('N', '\u0085'), ('_', '\u00a0'), ('L', '\u2028'),
    ('P', '\u2029') ]

/-- The escapes by code point, with how many digits they take. -/
def escapedCodes : List (Character × Nat) := [('x', 2), ('u', 4), ('U', 8)]

/-- A character by its code point, which may be that of half a pair.
Beyond the last character there is none. -/
def charOfCode (code : Nat) : Read Character :=
  if code < 0x110000 then .ok (.ofNat code)
  else if code < 0x80000000 then .error (.fault .codeBeyondRange)
  else .error (.fault .codeBeyondWord)

/-- Where in a double-quoted scalar a reader is: among its characters,
behind a backslash, or inside a code point with digits to come. -/
inductive QuotedPlace where
  | body
  | escape
  | code (digits value : Nat)

/-- The parts up to a double quote. -/
def doubleQuoted : QuotedPlace → Text → QuotedParts
  | _, [] => .error .unreadable
  | .body, c :: t =>
    if c = '"' then .ok ([], t)
    else if c = '\\' then doubleQuoted .escape t
    else plainPart c t (doubleQuoted .body t)
  | .escape, c :: t =>
    match escapedChars.lookup c, escapedCodes.lookup c with
    | some d, _ => QuotedPart.before (.char d) (doubleQuoted .body t)
    | none, some digits => doubleQuoted (.code digits 0) t
    | none, none =>
      if endsLine c && !isDocumentLine t then
        QuotedPart.before .joint (doubleQuoted .body t)
      else .error .unreadable
  | .code digits value, c :: t =>
    let letter := c.toLower.toNat
    if c.isDigit || (0x61 ≤ letter && letter ≤ 0x66) then
      let value := value * 16 + Numeral.valueIn 16 [c]
      if 1 < digits then doubleQuoted (.code (digits - 1) value) t
      else
        match charOfCode value with
        | .ok d => QuotedPart.before (.char d) (doubleQuoted .body t)
        | .error refusal => .error refusal
    else .error .unreadable

-- ================================================================ text

/-- What is held back while the text of a scalar is put together: blanks,
which go when a line ends behind them, or the line ends so far, of which
the first is missing behind a joint. -/
inductive Held where
  | blanks (t : Text)
  | lines (first : Option Character) (more : Text)

/-- What is held back as the text it counts as when a character comes
next. -/
def Held.text : Held → Text
  | .blanks t => t
  | .lines (some first) more => foldLines first more
  | .lines none more => more

/-- The text of the parts of a scalar. -/
def quotedText : Held → List QuotedPart → Text
  | held, [] => held.text
  | held, .char c :: parts =>
    held.text ++ c :: quotedText (.blanks []) parts
  | held, .joint :: parts => held.text ++ quotedText (.lines none []) parts
  | .blanks t, .blank c :: parts => quotedText (.blanks (t ++ [c])) parts
  | .blanks _, .lineEnd c :: parts => quotedText (.lines (some c) []) parts
  | .lines first more, .blank _ :: parts =>
    quotedText (.lines first more) parts
  | .lines first more, .lineEnd c :: parts =>
    quotedText (.lines first (more ++ [c])) parts

/-- The text of a scalar behind its opening quote, and what comes after
it. -/
def quoted (quote : Character) (t : Text) : Read (Text × Text) :=
  let parts :=
    if quote = '"' then doubleQuoted .body t else singleQuoted t
  parts.map fun (parts, rest) => (quotedText (.blanks []) parts, rest)

end TildeFormat.Yaml
