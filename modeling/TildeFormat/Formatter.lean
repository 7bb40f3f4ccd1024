/-
Templates in use. A compiled template is its text and its tree, and a
number that tells it from every other one compiled before or after it. A
formatter serves compiled templates from a cache and renders them, and
may write what it rendered to a stream: all of it, or nothing when the
render fails.
-/
import TildeFormat.Log
import TildeFormat.Template.Nesting

namespace TildeFormat

-- ============================================================ failures

/-- Why formatting fails: the template is refused, the arguments do not
fit it, or a fault. -/
inductive Failure where
  | parse (error : ParseError)
  | render (error : RenderError) (soFar : Text)
  | fault (fault : Fault)
  | escape
deriving DecidableEq

/-- A failure and what it says about the template. -/
def Failure.text (template : Text) : Failure → Text
  | parse error => error.text template
  | render error _ => error.text
  | fault f => word f.message
  | escape => escapeName

/-- The text of a run that finished, or why it did not. -/
def Run.result (run : Run) : Except Failure Text :=
  match run.ending with
  | .finished _ => .ok run.text
  | .escaped _ _ => .error .escape
  | .stopped (.error e) => .error (.render e run.text)
  | .stopped (.fault f) => .error (.fault f)

-- =================================================== compiled templates

/-- A compiled template. -/
structure Compiled where
  text : Text
  tree : List Node
  serial : Nat

/-- The template as a message shows it. -/
def templateText (text : Text) : Text :=
  word "Template(" ++ text.displayed ++ [.scalar ')']

-- ========================================================== formatters

/-- Directives, a cache of templates, and how many were compiled. -/
structure Formatter where
  registry : Registry := .standard
  cache : Cache Compiled := {}
  compiled : Nat := 0

namespace Formatter

/-- An answer of the formatter, what was logged, and the formatter after
it. -/
structure Reply (α : Type) where
  result : α
  log : List LogEntry
  next : Formatter

/-- A template made from its text. Whether it can be made or not, the
next one has another number. -/
def make (registry : Registry) (text : Text) (serial : Nat) :
    Except ParseError Compiled × Nat :=
  ((parse registry text).map fun tree => ⟨text, tree, serial⟩,
    serial + 1)

/-- The log of fetching a template: a miss, when there is one to tell of,
and how the reading went, when there was one. -/
def compileLog (formatter : Formatter) (text : Text) : List LogEntry :=
  let reading := LogEntry.parsed text (parse formatter.registry text)
  if formatter.cache.maxsize ≤ 0 then [reading]
  else if formatter.cache.contains text then []
  else [.cacheMiss formatter.cache, reading]

/-- The compiled template of a text, from the cache. -/
def compile (formatter : Formatter) (text : Text) :
    Reply (Except ParseError Compiled) :=
  let fetched := formatter.cache.getOrCreate text
    (make formatter.registry text) formatter.compiled
  ⟨fetched.result, formatter.compileLog text,
    { formatter with
      cache := fetched.cache
      compiled := fetched.state }⟩

/-- A template rendered against arguments. -/
def format (formatter : Formatter) (text : Text)
    (arguments : List Value) : Reply (Except Failure Text) :=
  let reply := formatter.compile text
  match reply.result with
  | .error e => { reply with result := .error (.parse e) }
  | .ok template =>
    let run := render formatter.registry template.tree arguments
    ⟨run.result, reply.log ++ LogEntry.ofRun run, reply.next⟩

/-- A template rendered to the end of a stream, given by what was written
to it so far. -/
def write (formatter : Formatter) (stream text : Text)
    (arguments : List Value) : Reply (Except Failure Unit × Text) :=
  let reply := formatter.format text arguments
  match reply.result with
  | .error e => { reply with result := (.error e, stream) }
  | .ok t => { reply with result := (.ok (), stream ++ t) }

end Formatter

end TildeFormat
