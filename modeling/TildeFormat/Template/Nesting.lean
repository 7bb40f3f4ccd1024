/-
Nesting: pieces put together into a tree. The nest is the place in the
tree where the next piece goes: the nodes of the sequence being filled,
last first, and the constructs open around it, innermost first, each
with the segments it has already closed and the nodes in front of it.

Literal text joins a literal in front of it, so no two are neighbours,
and a text that a joined line interrupts is one literal.
-/
import TildeFormat.Template.Piece

namespace TildeFormat

/-- An open construct. -/
structure Frame where
  shape : Shape
  clause : Clause
  /-- The closed segments, last first. -/
  closed : List (List Node)
  /-- The nodes in front of the construct, last first. -/
  before : List Node

/-- A place in a tree that is being built. -/
structure Nest where
  /-- The nodes of the current sequence, last first. -/
  current : List Node
  /-- The open constructs, innermost first. -/
  frames : List Frame

namespace Nest

/-- Before the first piece. -/
def empty : Nest := ⟨[], []⟩

/-- One more node. -/
def add (nest : Nest) (node : Node) : Nest :=
  { nest with current := node :: nest.current }

/-- More literal text. -/
def addText (nest : Nest) (t : Text) (position : Nat) : Nest :=
  match nest.current with
  | .literal s start :: rest =>
    { nest with current := .literal (s ++ t) start :: rest }
  | nodes => { nest with current := .literal t position :: nodes }

/-- The node of a construct whose last segment is `last`. An iteration
has this one segment, its body; an empty body would stand for a template
given by an argument, which is not supported. -/
def close (frame : Frame) (last : List Node) (closer : Clause) :
    Except ParseError Node :=
  match frame.shape with
  | .iteration =>
    if last.isEmpty then .error ⟨.emptyBody, frame.clause.position⟩
    else .ok (.iteration last closer.modifiers.colon frame.clause)
  | .justification =>
    .ok (.justification (last :: frame.closed).reverse frame.clause)

/-- An escape stands inside a construct, and one that leaves a whole loop
directly inside a loop over sublists. -/
def checkEscape (nest : Nest) (clause : Clause) :
    Except ParseError Unit :=
  match nest.frames with
  | [] => .error ⟨.escapeOutside, clause.position⟩
  | frame :: _ =>
    if clause.modifiers.colon
        && !(frame.shape == .iteration && frame.clause.modifiers.colon)
    then .error ⟨.loopEscapeOutside, clause.position⟩
    else .ok ()

/-- The nest after one more piece. -/
def step (nest : Nest) : Piece → Except ParseError Nest
  | .text t position => .ok (nest.addText t position)
  | .simple kind clause => .ok (nest.add (.simple kind clause))
  | .opener shape clause =>
    .ok ⟨[], ⟨shape, clause, [], nest.current⟩ :: nest.frames⟩
  | .closer shape clause =>
    match nest.frames with
    | [] => .error ⟨.closerWithoutOpener shape, clause.position⟩
    | frame :: frames =>
      if frame.shape ≠ shape then
        .error ⟨.closerMismatch shape frame.shape frame.clause.position,
          clause.position⟩
      else
        match close frame nest.current.reverse clause with
        | .error e => .error e
        | .ok node => .ok ⟨node :: frame.before, frames⟩
  | .separator clause =>
    match nest.frames with
    | frame :: frames =>
      if frame.shape = .justification then
        .ok ⟨[], { frame with
          closed := nest.current.reverse :: frame.closed } :: frames⟩
      else .error ⟨.separatorOutside, clause.position⟩
    | [] => .error ⟨.separatorOutside, clause.position⟩
  | .escape clause =>
    match nest.checkEscape clause with
    | .error e => .error e
    | .ok () => .ok (nest.add (.escape nest.frames.length clause))

/-- The nest after several pieces. -/
def steps (nest : Nest) : List Piece → Except ParseError Nest
  | [] => .ok nest
  | piece :: rest =>
    match nest.step piece with
    | .error e => .error e
    | .ok next => steps next rest

/-- The tree, once every construct is closed. -/
def finish (nest : Nest) : Except ParseError (List Node) :=
  match nest.frames with
  | [] => .ok nest.current.reverse
  | frame :: _ => .error ⟨.neverClosed frame.shape, frame.clause.position⟩

end Nest

/-- The tree of a template. Errors are found from left to right: what is
wrong with the nesting of earlier pieces comes before what is wrong with
a later directive, and an open construct comes last. -/
def parse (registry : Registry) (template : Text) :
    Except ParseError (List Node) :=
  let reading := readPieces registry (Place.start template)
  match Nest.empty.steps reading.pieces with
  | .error e => .error e
  | .ok nest =>
    match reading.error? with
    | some e => .error e
    | none => nest.finish

end TildeFormat
