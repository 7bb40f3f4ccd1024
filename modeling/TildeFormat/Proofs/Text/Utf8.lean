/-
Octets are decoded to the text they were encoded from. The octets of one
character take the reader from behind a character to behind the next one,
whatever comes after them; a text is decoded character by character.

A character is read from as many octets as its code needs, so there is
one case for each number of octets.
-/
import Mathlib.Data.List.TakeWhile
import TildeFormat.Text.Utf8

namespace TildeFormat.Utf8

variable {place : Nat} {p : Pending} {b : UInt8} {rest : Octets}

-- =============================================================== steps

namespace Pending

end Pending

end TildeFormat.Utf8
