/-
The directives that render in one step. With its parameter values at
hand, a directive takes the arguments it needs and names the field it
wants drawn; the drawing comes last, so nothing is put out when an
argument is missing or of the wrong kind.
-/
import TildeFormat.Render.Param

namespace TildeFormat

-- ============================================================ arguments

/-- The next argument as an integer. -/
def Cursor.takeInteger (cursor : Cursor) (directive : Text)
    (position : Nat) : Except RenderError (Int × Cursor) := do
  let (argument, next) ← cursor.take directive position
  match argument.integer? with
  | some n => return (n, next)
  | none =>
    throw ⟨.needsInteger (argument.text .machine), some position,
      directive⟩

/-- As many arguments, given up. -/
def Cursor.skip (directive : Text) (position : Nat) :
    Nat → Cursor → Except RenderError Cursor
  | 0, cursor => .ok cursor
  | count + 1, cursor => do
    let (_, next) ← cursor.take directive position
    Cursor.skip directive position count next

-- ============================================================= drawing

/-- A field drawn for a directive. What the fixed-point notation cannot
show is the directive's own error. -/
def drawField (directive : Text) (position : Nat) (field : Field)
    (cursor : Cursor) : Run :=
  Run.noting [.drawn field]
    (match field.draw with
    | .ok text => .emit text cursor
    | .error (.fixed fault) =>
      .fail ⟨.unsupported fault, some position, directive⟩
    | .error fault => .stop (.fault fault))

/-- Parameter values that are not what the action works on: too many or
too few of them, or of the wrong type. -/
def misfit (expected : Nat) (values : List ParamValue) : Stop :=
  .fault (if values.length = expected then .slotType
    else .slotCount expected values.length)

/-- An optional integer parameter. -/
def ParamValue.integer?? : ParamValue → Option (Option Int)
  | absent => some none
  | integer n => some (some n)
  | text _ => none

/-- An optional text parameter. -/
def ParamValue.text?? : ParamValue → Option (Option Text)
  | absent => some none
  | text t => some (some t)
  | integer _ => none

-- ============================================================= actions

/-- A text argument in its padding. -/
def renderText (form : Form) (directive : Text) (clause : Clause)
    (values : List ParamValue) (cursor : Cursor) : Run :=
  match values with
  | [.integer mincol, .integer colinc, .integer minpad, .text padchar] =>
    orFail (cursor.take directive clause.position) fun (argument, next) =>
      drawField directive clause.position
        (.padded ⟨mincol, colinc, minpad, padchar,
          clause.modifiers.atSign⟩ (argument.text form)) next
  | _ => .stop (misfit 4 values)

/-- An integer argument. -/
def renderDecimal (directive : Text) (clause : Clause)
    (values : List ParamValue) (cursor : Cursor) : Run :=
  match values with
  | [.integer mincol, .text padchar, .text commachar,
      .integer interval] =>
    orFail (cursor.takeInteger directive clause.position)
      fun (number, next) =>
        drawField directive clause.position
          (.decimal ⟨mincol, padchar, commachar, interval,
            clause.modifiers.colon, clause.modifiers.atSign⟩ number) next
  | _ => .stop (misfit 4 values)

/-- The event of an argument that is rounded to be written. -/
def Value.rounding (argument : Value) : List Event :=
  match argument.quotient? with
  | some (numerator, denominator) => [.rounded numerator denominator]
  | none => []

/-- A number argument in fixed-point notation, rounded to binary64
first. -/
def renderFixed (directive : Text) (clause : Clause)
    (values : List ParamValue) (cursor : Cursor) : Run :=
  match values with
  | [width, digits, .integer scale, overflowchar, .text padchar] =>
    match width.integer??, digits.integer??, overflowchar.text?? with
    | some width, some digits, some overflowchar =>
      orFail (cursor.take directive clause.position)
        fun (argument, next) =>
          Run.noting argument.rounding
            (match argument.float? with
            | .error fault => .stop (.fault fault)
            | .ok none =>
              .fail ⟨.needsNumber (argument.text .machine),
                some clause.position, directive⟩
            | .ok (some number) =>
              drawField directive clause.position
                (.fixed ⟨width, digits, scale, overflowchar, padchar,
                  clause.modifiers.atSign⟩ number) next)
    | _, _, _ => .stop (misfit 5 values)
  | _ => .stop (misfit 5 values)

/-- Arguments passed over. -/
def renderSkip (directive : Text) (clause : Clause)
    (values : List ParamValue) (cursor : Cursor) : Run :=
  match values with
  | [.integer count] =>
    Run.noting [.skipped count]
      (orFail (Cursor.skip directive clause.position count.toNat cursor)
        .idle)
  | _ => .stop (misfit 1 values)

/-- A character over and over. -/
def renderCopies (c : Character) (directive : Text) (clause : Clause)
    (values : List ParamValue) (cursor : Cursor) : Run :=
  match values with
  | [.integer count] =>
    drawField directive clause.position (.copies c count) cursor
  | _ => .stop (misfit 1 values)

/-- What a built-in kind does. -/
def Kind.act : Kind → Text → Clause → List ParamValue → Cursor → Run
  | human => renderText .human
  | machine => renderText .machine
  | decimal => renderDecimal
  | fixed => renderFixed
  | skip => renderSkip
  | newline => renderCopies '\n'
  | tilde => renderCopies '~'

/-- A one-step directive: its parameters and then its action. -/
def renderSimple (registry : Registry) (kind : Kind) (clause : Clause)
    (cursor : Cursor) : Run :=
  let spec := registry.ofKind kind
  orFail (resolveParams kind.name clause.params spec.params cursor)
    fun (values, next) =>
      match spec.action with
      | some action => action.act kind.name clause values next
      | none => .stop (.fault .noRendering)

end TildeFormat
