/-
Why a template is refused: a cause and a place. Each cause belongs to one
of four families, has one text, and is shown with an excerpt of the
template around the place, a caret under the character that stands there.
-/
import TildeFormat.Template.Tree
import TildeFormat.Directive.Spec
import TildeFormat.Value.Display

namespace TildeFormat

-- ============================================================== causes

/-- Why a template is refused. -/
inductive ParseCause where
  | endsInDirective
  | unknownDirective (c : Character)
  | emptyBody
  | missingComma (found : Character)
  | signWithoutDigits (sign : Character)
  | quoteWithoutCharacter
  | repeatedModifier (c : Character)
  | tooManyParams (directive : Text) (allowed given : Nat)
  | wrongType (directive : Text) (slot : ParamSpec) (got : ParamValue)
  | belowMinimum (directive : Text) (slot : ParamSpec) (got : ParamValue)
  | unsupportedModifiers (directive : Text) (modifiers : Modifiers)
  | closerWithoutOpener (shape : Shape)
  | closerMismatch (closer opened : Shape) (openedAt : Nat)
  | separatorOutside
  | neverClosed (shape : Shape)
  | escapeOutside
  | loopEscapeOutside
deriving DecidableEq

/-- The families of causes. -/
inductive ParseFamily where
  | unknownDirective
  | unmatchedDelimiter
  | invalidParameter
  | misplacedEscape
deriving DecidableEq

/-- The name of a family. -/
def ParseFamily.name : ParseFamily → String
  | unknownDirective => "UnknownDirectiveError"
  | unmatchedDelimiter => "UnmatchedDelimiterError"
  | invalidParameter => "InvalidParameterError"
  | misplacedEscape => "MisplacedEscapeError"

/-- A parameter value as a message shows it. -/
def ParamValue.displayed (v : ParamValue) : Text := v.toValue.display

/-- A parameter value by itself. -/
def ParamValue.bare (v : ParamValue) : Text := v.toValue.text .human

/-- A minimum as a message shows it. -/
def minimumText : Option Int → Text
  | some n => Numeral.integer n
  | none => word "None"

namespace ParseCause

/-- The family of a cause. -/
def family : ParseCause → ParseFamily
  | endsInDirective | unknownDirective _ | emptyBody => .unknownDirective
  | closerWithoutOpener _ | closerMismatch _ _ _ | separatorOutside
  | neverClosed _ => .unmatchedDelimiter
  | escapeOutside => .misplacedEscape
  | _ => .invalidParameter

/-- The text of a cause. -/
def message (cause : ParseCause) : Text :=
  match cause with
  | endsInDirective => word "template ends inside a directive"
  | unknownDirective c =>
    word "unknown directive " ++ (directiveName c).displayed
  | emptyBody =>
    word "~\x7b~\x7d with an empty body (indirect template) "
      ++ word "is not supported"
  | missingComma found =>
    word "expected ',' between parameters, found "
      ++ Text.displayed [found]
  | signWithoutDigits sign =>
    word "sign " ++ Text.displayed [sign] ++ word " without digits"
  | quoteWithoutCharacter =>
    word "character parameter missing after quote"
  | repeatedModifier c =>
    word "repeated modifier " ++ Text.displayed [c]
  | tooManyParams directive allowed given =>
    directive ++ word " takes at most " ++ Numeral.digits allowed
      ++ word " parameter(s), got " ++ Numeral.digits given
  | wrongType directive slot got =>
    directive ++ word " parameter '" ++ word slot.name
      ++ word "' must be " ++ word slot.type.name ++ word ", got "
      ++ got.displayed
  | belowMinimum directive slot got =>
    directive ++ word " parameter '" ++ word slot.name
      ++ word "' must be at least " ++ minimumText slot.minimum
      ++ word ", got " ++ got.bare
  | unsupportedModifiers directive modifiers =>
    directive ++ word " does not accept the '" ++ modifiers.text
      ++ word "' modifier"
  | closerWithoutOpener shape =>
    directiveName shape.closer ++ word " without a matching "
      ++ directiveName shape.opener
  | closerMismatch closer opened openedAt =>
    directiveName closer.closer ++ word " cannot close "
      ++ opened.name ++ word " opened at offset "
      ++ Numeral.digits openedAt
  | separatorOutside => word "~; outside ~<...~>"
  | neverClosed shape => shape.name ++ word " is never closed"
  | escapeOutside => word "~^ outside ~\x7b...~\x7d or ~<...~>"
  | loopEscapeOutside =>
    word "~:^ is only valid directly inside ~:\x7b...~\x7d"

end ParseCause

-- ============================================================== errors

/-- A cause and the place it is reported at. -/
structure ParseError where
  cause : ParseCause
  position : Nat
deriving DecidableEq

/-- A message followed by the place it is about. -/
def locatedText (message : Text) (position : Nat) : Text :=
  message ++ word " (at offset " ++ Numeral.digits position ++ [.scalar ')']

namespace ParseError

/-- How many characters an excerpt shows on either side of a place. -/
def reach : Nat := 40

/-- The part of the template around the place, on one line. -/
def excerpt (template : Text) (error : ParseError) : Text :=
  let start := error.position - reach
  Text.replaceNewlines ' '
    ((template.take (error.position + reach)).drop start)

/-- The two lines that show the place: the excerpt, and a caret under
the character at fault. -/
def context (template : Text) (error : ParseError) : Text :=
  Text.spaces 2 ++ error.excerpt template ++ .scalar '\n' :: Text.spaces 2
    ++ Text.spaces (error.position - (error.position - reach))
    ++ [.scalar '^']

/-- The error with its place and the lines that show it. -/
def text (template : Text) (error : ParseError) : Text :=
  locatedText error.cause.message error.position
    ++ .scalar '\n' :: error.context template

end ParseError

end TildeFormat
