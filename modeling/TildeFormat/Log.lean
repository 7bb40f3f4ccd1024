/-
The log: messages with the verbosity they need. What happened is read
off the results of reading and rendering, so neither of them logs.
-/
import TildeFormat.Cache
import TildeFormat.Render

namespace TildeFormat

/-- A message and the least verbosity that shows it. -/
structure LogEntry where
  level : Nat
  message : Text
deriving DecidableEq

namespace LogEntry

/-- The messages a verbosity shows. -/
def shown (verbosity : Nat) (entries : List LogEntry) : List Text :=
  (entries.filter fun e => e.level ≤ verbosity).map LogEntry.message

/-- A template was looked for in a cache and not found. -/
def cacheMiss {α : Type} (cache : Cache α) : LogEntry where
  level := 2
  message :=
    word "Template cache miss (" ++ Numeral.digits cache.entries.length
      ++ .scalar '/' :: Numeral.integer cache.maxsize ++ word " entries)"

/-- A template was read, or refused. -/
def parsed (template : Text) : Except ParseError (List Node) → LogEntry
  | .ok tree =>
    ⟨3, word "Parsed " ++ Numeral.digits template.length
      ++ word " characters into " ++ Numeral.digits tree.length
      ++ word " top-level nodes"⟩
  | .error e =>
    ⟨2, word e.cause.family.name ++ ([':', ' '] : Text) ++ e.cause.message
      ++ word " at offset " ++ Numeral.digits e.position⟩

/-- What is logged of an event. -/
def ofEvent? : Event → Option LogEntry
  | .looped position passes =>
    some ⟨3, Shape.iteration.name ++ word " at offset "
      ++ Numeral.digits position ++ word " ran " ++ Numeral.digits passes
      ++ word " pass(es)"⟩
  | _ => none

/-- What is logged of the ending of a render. -/
def ofRendered? (run : Run) : Option LogEntry :=
  match run.ending with
  | .finished cursor =>
    some ⟨3, word "Rendered " ++ Numeral.digits run.text.length
      ++ word " characters, " ++ Numeral.digits cursor.remaining
      ++ word " argument(s) unused"⟩
  | .stopped (.error e) =>
    some ⟨2, word e.cause.family.name ++ ([':', ' '] : Text) ++ e.text⟩
  | _ => none

/-- The log of a render. -/
def ofRun (run : Run) : List LogEntry :=
  run.events.filterMap ofEvent? ++ (ofRendered? run).toList

end LogEntry

end TildeFormat
