/-
The cursor: how many arguments a render has used up and which are left.
It only moves forward, so the arguments themselves need not be kept, and
the number supplied is what is behind and ahead together.
-/
import TildeFormat.Value.Form

namespace TildeFormat

/-- A place in a list of arguments. -/
structure Cursor where
  consumed : Nat
  rest : List Value

namespace Cursor

/-- Before the first of these arguments. -/
def ofList (arguments : List Value) : Cursor := ⟨0, arguments⟩

/-- The number of arguments left. -/
def remaining (cursor : Cursor) : Nat := cursor.rest.length

/-- The number of arguments there were. -/
def supplied (cursor : Cursor) : Nat :=
  cursor.consumed + cursor.remaining

/-- No argument is left. -/
def exhausted (cursor : Cursor) : Bool := cursor.rest.isEmpty

/-- The next argument, still ahead. -/
def peek? (cursor : Cursor) : Option Value := cursor.rest.head?

/-- The next argument, and the cursor after it. -/
def advance? (cursor : Cursor) : Option (Value × Cursor) :=
  match cursor.rest with
  | [] => none
  | v :: rest => some (v, ⟨cursor.consumed + 1, rest⟩)

/-- The cursor as a message shows it. -/
def text (cursor : Cursor) : Text :=
  word "ArgumentCursor(position=" ++ Numeral.digits cursor.consumed
    ++ word ", remaining=" ++ Numeral.digits cursor.remaining ++ [.scalar ')']

end Cursor

end TildeFormat
