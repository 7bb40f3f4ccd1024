/-
What rendering a part of a template comes to: the text it put out, what
happened on the way, and how it ended. It may finish, with the cursor
where the next part goes on; it may fire an escape, which the innermost
construct around it catches; or it may stop for good. The text so far is
there in every case: an escape keeps it, and a failure reports it.

Runs are put one after the other by `andThen`, under which a finished
run passes its cursor on and any other ending is the ending of both.
-/
import TildeFormat.Render.Error
import TildeFormat.Field
import TildeFormat.Directive.Registry

namespace TildeFormat

-- ============================================================== events

/-- What can happen during a render.

- `drawn`: a field is about to be drawn.
- `rounded`: a quotient of integers is about to be rounded to the
  nearest binary64 value.
- `skipped`: a directive is about to skip this many arguments.
- `looping`: an iteration starts, with its pass limit.
- `looped`: an iteration at a place ended after this many passes.
- `tested`: an escape is evaluated, with the depth written in its node,
  the number of constructs around it, and whether it asked about
  sublists and there were any to ask about. -/
inductive Event where
  | drawn (field : Field)
  | rounded (numerator : Int) (denominator : Nat)
  | skipped (count : Int)
  | looping (position : Nat) (limit : Option Int)
  | looped (position passes : Nat)
  | tested (depth active : Nat) (wholeLoop overSublists : Bool)
deriving DecidableEq

-- ============================================================= endings

/-- Why a render stops for good. -/
inductive Stop where
  | error (error : RenderError)
  | fault (fault : Fault)
deriving DecidableEq

/-- How a run ends. -/
inductive Ending where
  | finished (cursor : Cursor)
  | escaped (wholeLoop : Bool) (cursor : Cursor)
  | stopped (stop : Stop)

/-- The run of a part of a template. -/
structure Run where
  text : Text
  events : List Event
  ending : Ending

namespace Run

/-- A run that does nothing. -/
def idle (cursor : Cursor) : Run := ⟨[], [], .finished cursor⟩

/-- A run that puts out a text. -/
def emit (text : Text) (cursor : Cursor) : Run :=
  ⟨text, [], .finished cursor⟩

/-- A run that stops at once. -/
def stop (why : Stop) : Run := ⟨[], [], .stopped why⟩

/-- A run that stops at once with an error. -/
def fail (error : RenderError) : Run := stop (.error error)

/-- The run after some events. -/
def noting (events : List Event) (run : Run) : Run :=
  { run with events := events ++ run.events }

/-- The run behind a text and events that came before it. -/
def behind (text : Text) (events : List Event) (run : Run) : Run :=
  ⟨text ++ run.text, events ++ run.events, run.ending⟩

/-- A run, and when it finishes the run that follows it. -/
def andThen (run : Run) (next : Cursor → Run) : Run :=
  match run.ending with
  | .finished cursor => (next cursor).behind run.text run.events
  | _ => run

/-- The run with another ending. -/
def endingWith (run : Run) (ending : Ending) : Run :=
  { run with ending }

end Run

/-- Go on with a value unless it is an error, which stops the run. -/
def orFail {α : Type} (attempt : Except RenderError α) (next : α → Run) :
    Run :=
  match attempt with
  | .ok a => next a
  | .error e => .fail e

end TildeFormat
