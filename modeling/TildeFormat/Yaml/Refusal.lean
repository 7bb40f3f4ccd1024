/-
Why a document has no value: it cannot be read, or it can but a word of
it has the form of a value and stands for none. A reader of documents
may go on without the first; the second is a fault of its own.
-/
import TildeFormat.Fault

namespace TildeFormat.Yaml

/-- Why a document has no value. -/
inductive Refusal where
  | unreadable
  | fault (fault : Fault)
deriving DecidableEq

/-- A part of a document that was read, or why it was not. -/
abbrev Read (α : Type) := Except Refusal α

/-- What is not there cannot be read. -/
def readable {α : Type} : Option α → Read α
  | some a => .ok a
  | none => .error .unreadable

/-- What has a fault is refused for it. -/
def faultless {α : Type} : Except Fault α → Read α
  | .ok a => .ok a
  | .error fault => .error (.fault fault)

end TildeFormat.Yaml
