/-
Tokens of a template, for display. The rules describe a directive by its
outside alone: a tilde, parameters, modifiers, and a character of one of
three classes, or a line break with the indentation after it. A tilde
that starts none of these is an error together with the character after
it on its line, and everything else is text.

This is a description of its own, not the reader's: it takes the digits
of every script, any run of modifiers, and no account of brackets.
-/
import TildeFormat.Highlight.Pattern
import TildeFormat.Text.DecimalDigit

namespace TildeFormat

/-- The classes of tokens. -/
inductive TokenClass where
  | text
  | marker
  | params
  | modifiers
  | bracket
  | printing
  | control
  | continuation
  | error
deriving DecidableEq

/-- The name of a class. -/
def TokenClass.name : TokenClass → String
  | text => "Token.Text"
  | marker => "Token.Punctuation"
  | params => "Token.Literal.Number"
  | modifiers => "Token.Name.Decorator"
  | bracket => "Token.Keyword"
  | printing => "Token.Name.Function"
  | control => "Token.Literal.String.Escape"
  | continuation => "Token.Comment"
  | error => "Token.Error"

/-- A token: its class, its text and how many characters are before
it. -/
structure Lexeme where
  kind : TokenClass
  offset : Nat
  text : Text
deriving DecidableEq

namespace Lexeme

-- ============================================================ patterns

/-- One of the characters of a string. -/
def oneOf (s : String) : Character → Bool := fun c =>
  (Text.ofString s).contains c

/-- A parameter: an integer, a quoted character, or one of the letters
for a value from the arguments. -/
def paramPattern : Pattern :=
  .alt
    (.seq (.optional (.char (oneOf "+-"))) (.some isDecimalDigit))
    (.alt (.seq (.char (· == '\'')) (.char fun _ => true))
      (.char (oneOf "vV#")))

/-- Parameters between commas, any of them left out. -/
def paramsPattern : Pattern :=
  .seq (.optional paramPattern)
    (.star (.seq (.char (· == ',')) (.optional paramPattern)))

/-- Modifiers, any number of them. -/
def modifiersPattern : Pattern := .many (oneOf ":@")

/-- A tilde. -/
def markerPattern : Pattern := .char (· == '~')

/-- A directive whose character is in a class. -/
def directiveRule (kind : TokenClass) (chars : String) :
    Rule TokenClass :=
  [ (.marker, markerPattern), (.params, paramsPattern),
    (.modifiers, modifiersPattern), (kind, .char (oneOf chars)) ]

/-- The rules, in the order in which they are tried. -/
def rules : List (Rule TokenClass) :=
  [ [ (.marker, markerPattern), (.modifiers, modifiersPattern),
      (.continuation,
        .seq (.char (· == '\n')) (.many (oneOf " \t"))) ],
    directiveRule .bracket "\x7b\x7d<>;^",
    directiveRule .printing "aAsSdDfF",
    directiveRule .control "*%~",
    [ (.error,
        .seq markerPattern (.optional (.char (· != '\n')))) ],
    [ (.text, .some (· != '~')) ] ]

-- ============================================================== tokens

/-- Parts put down as tokens from an offset on; empty parts leave
none. -/
def ofParts : Nat → List (TokenClass × Text) → List Lexeme
  | _, [] => []
  | offset, (kind, t) :: parts =>
    let rest := ofParts (offset + t.length) parts
    if t.isEmpty then rest else ⟨kind, offset, t⟩ :: rest

/-- The tokens of a text from an offset on. A text that no rule fits
would be an error character by character. -/
def scan (offset : Nat) (t : Text) : List Lexeme :=
  match t with
  | [] => []
  | c :: rest =>
    match rules.findSome? fun rule => rule.match? (c :: rest) with
    | some (parts, after) =>
      if after.length < rest.length + 1 then
        ofParts offset parts
          ++ scan (offset + (rest.length + 1 - after.length)) after
      else ⟨.error, offset, [c]⟩ :: scan (offset + 1) rest
    | none => ⟨.error, offset, [c]⟩ :: scan (offset + 1) rest
termination_by t.length

/-- The tokens of a text as it stands. -/
def ofText (t : Text) : List Lexeme := scan 0 t

end Lexeme

-- ============================================================= listings

/-- How a text is made ready for a listing: whether line feeds on its
sides are stripped, and whether it has to end in one. -/
structure ListingOptions where
  stripnl : Bool := true
  ensurenl : Bool := true

namespace ListingOptions

/-- The text made ready. -/
def prepare (options : ListingOptions) (t : Text) : Text :=
  let t := Text.unifyNewlines (Text.withoutMark t)
  let t := if options.stripnl then t.stripped (· == '\n') else t
  if options.ensurenl && t.getLast? != some (.scalar '\n') then
    t ++ [.scalar '\n']
  else t

end ListingOptions

end TildeFormat
