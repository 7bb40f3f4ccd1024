/-
What the program leaves to others: to load a document, and to list a
template in colours. Nothing is known about either, so what is said of a
run holds whatever they do.
-/
import TildeFormat.Value.Form

namespace TildeFormat.CommandLine

/-- A breakdown of a loader. The document is not to blame for it. -/
structure Breakdown where
  family : Option FaultFamily
  message : Text
deriving DecidableEq

/-- Why a document gives no value.

- `unreadable`: it is no document, for a reason.
- `broken`: the loader broke down. -/
inductive LoadFailure where
  | unreadable (reason : Text)
  | broken (breakdown : Breakdown)
deriving DecidableEq

/-- The libraries of a program.

- `load`: the value of a document.
- `listing`: a template in colours. -/
structure Libraries where
  load : Text → Except LoadFailure Value
  listing : Text → Text

end TildeFormat.CommandLine
