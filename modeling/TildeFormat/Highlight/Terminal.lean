/-
A template in the colours of a terminal. Each token is coloured line by
line, so that no colour runs over a line end: the colour is switched on
before a line of the token and off after it, and the line feed itself
stands outside.
-/
import TildeFormat.Highlight.Lexer
import TildeFormat.Text.Blank

namespace TildeFormat

/-- A control sequence. -/
def controlSequence (s : String) : Text := '\x1b' :: '[' :: Text.ofString s

/-- What switches the colour of a class on; plain classes have none. -/
def TokenClass.colour? : TokenClass → Option Text
  | .continuation => some (controlSequence "37m")
  | .bracket | .params => some (controlSequence "34m")
  | .printing => some (controlSequence "32m")
  | .modifiers => some (controlSequence "90m")
  | .control => some (controlSequence "33m")
  | .error => some (controlSequence "04m" ++ controlSequence "91m")
  | .text | .marker => none

/-- What switches every colour off. -/
def colourOff : Text := controlSequence "39;49;00m"

/-- The lines of a text, each with the character that ends it. A
carriage return and a line feed end a line together. -/
def linesOf : Text → List Text
  | [] => []
  | '\r' :: '\n' :: t => ['\r', '\n'] :: linesOf t
  | c :: t =>
    if isLineBoundary c then [c] :: linesOf t
    else
      match linesOf t with
      | [] => [[c]]
      | line :: lines => (c :: line) :: lines

/-- A line in a colour, its line feed outside. -/
def colourLine (colour : Text) (line : Text) : Text :=
  let bare := line.filter (· != .scalar '\n')
  colour ++ bare ++ colourOff
    ++ (if line.getLast? = some (.scalar '\n') then [.scalar '\n'] else [])

/-- A token in its colour. -/
def Lexeme.coloured (lexeme : Lexeme) : Text :=
  match lexeme.kind.colour? with
  | none => lexeme.text
  | some colour => (linesOf lexeme.text).flatMap (colourLine colour)

/-- A template in colours, as a listing. -/
def highlighted (template : Text) : Text :=
  (Lexeme.ofText (ListingOptions.prepare {} template)).flatMap
    Lexeme.coloured

end TildeFormat
