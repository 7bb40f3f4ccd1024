/-
The parameter values of a directive. A slot without a parameter, or with
an omitted one, has its default; what was written out was checked when
the template was read; what comes from the arguments is checked here.
Taking a value from the arguments uses one up, and an argument that is
nothing stands for the default.
-/
import TildeFormat.Render.Run

namespace TildeFormat

/-- The parameter value of an argument; only integers and texts can be
one. -/
def Value.param? : Value → Option ParamValue
  | .int n => some (.integer n)
  | .str t => some (.text t)
  | _ => none

/-- A value from the arguments, against its slot: its type and then its
range. `shown` is how a message of the wrong type shows it. -/
def ParamSpec.resolve (slot : ParamSpec) (directive : Text) (position : Nat)
    (v : Value) (shown : Text) : Except RenderError ParamValue :=
  match v.param? with
  | none => .error ⟨.paramType slot shown, some position, directive⟩
  | some value =>
    if !slot.accepts v then
      .error ⟨.paramType slot shown, some position, directive⟩
    else if !slot.inRange v then
      .error ⟨.paramMinimum slot value.bare, some position, directive⟩
    else .ok value

/-- The value of one parameter, and the cursor after it. -/
def resolveParam (directive : Text) (param? : Option Param)
    (slot : ParamSpec) (cursor : Cursor) :
    Except RenderError (ParamValue × Cursor) :=
  match param? with
  | none => .ok (slot.default, cursor)
  | some param =>
    match param.source with
    | .omitted => .ok (slot.default, cursor)
    | .integer n => .ok (.integer n, cursor)
    | .character c => .ok (.text [c], cursor)
    | .remaining => do
      let count : Int := cursor.remaining
      let value ← slot.resolve directive param.position (.int count)
        (word "# = " ++ Numeral.integer count)
      return (value, cursor)
    | .nextArgument => do
      let (argument, next) ← cursor.take directive param.position
      match argument with
      | .nothing => return (slot.default, next)
      | v =>
        let value ← slot.resolve directive param.position v (v.text .machine)
        return (value, next)

/-- The values of all slots in order, and the cursor after them. -/
def resolveParams (directive : Text) :
    List Param → List ParamSpec → Cursor →
      Except RenderError (List ParamValue × Cursor)
  | _, [], cursor => .ok ([], cursor)
  | params, slot :: slots, cursor => do
    let (value, next) ← resolveParam directive params.head? slot cursor
    let (values, last) ← resolveParams directive params.tail slots next
    return (value :: values, last)

end TildeFormat
