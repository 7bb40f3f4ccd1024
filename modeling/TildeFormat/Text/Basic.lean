/-
Text: a list of characters. Every position, length and width of the
library counts characters, and every reader walks its input from the
left, so the list is the text itself and not a view of it; strings
appear only where text enters or leaves the library.
-/
import TildeFormat.Text.Character

namespace TildeFormat

/-- A text, character by character. -/
abbrev Text := List Character

namespace Text

/-- The text of a string literal. -/
def ofString (s : String) : Text := s.toList.map .scalar

/-- The string of a text, with its halves of pairs escaped. -/
def string (t : Text) : String :=
  String.ofList (t.flatMap Character.spelled)

/-- `count` copies of a text, one after the other. -/
def copies (t : Text) (count : Nat) : Text :=
  (List.replicate count t).flatten

/-- The texts in order, with `separator` between neighbours. -/
def join (separator : Text) : List Text → Text
  | [] => []
  | [t] => t
  | t :: rest => t ++ separator ++ join separator rest

/-- Order by code points, character by character; a proper beginning
comes first. -/
def le : Text → Text → Bool
  | [], _ => true
  | _ :: _, [] => false
  | a :: s, b :: t =>
    if a = b then le s t else decide (a.toNat < b.toNat)

/-- As many spaces. -/
def spaces (count : Nat) : Text := List.replicate count ' '

/-- The text between two occurrences of a separator, and what is before
the first and after the last one. -/
def splitAt (separator : Character) : Text → List Text
  | [] => [[]]
  | c :: t =>
    if c = separator then [] :: splitAt separator t
    else
      match splitAt separator t with
      | [] => [[c]]
      | piece :: pieces => (c :: piece) :: pieces

/-- A text without the characters on its sides that pass. -/
def stripped (test : Character → Bool) (t : Text) : Text :=
  ((t.dropWhile test).reverse.dropWhile test).reverse

/-- Line ends of every kind as line feeds. -/
def unifyNewlines : Text → Text
  | '\r' :: '\n' :: t => '\n' :: unifyNewlines t
  | '\r' :: t => '\n' :: unifyNewlines t
  | c :: t => c :: unifyNewlines t
  | [] => []

/-- A text without the mark of its byte order. -/
def withoutMark : Text → Text
  | c :: t => if c.toNat = 0xFEFF then t else c :: t
  | [] => []

/-- Replace every line feed by `c`. -/
def replaceNewlines (c : Character) (t : Text) : Text :=
  t.map fun (d : Character) => if d = '\n' then c else d

end Text

end TildeFormat
