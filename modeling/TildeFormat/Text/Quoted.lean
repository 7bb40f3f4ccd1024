/-
Two ways to quote a text.

The readable form stands in double quotes and escapes nothing but the
quote and the backslash, so line feeds and all other characters are kept.

The displayed form is for messages: it is on one line and in printable
characters only. It stands in single quotes, or in double quotes where
that spares an escape: when the text has single quotes and no double
ones. Octets have a displayed form of the same kind, marked by a `b`.
-/
import TildeFormat.Text.Printable
import TildeFormat.Text.Basic

namespace TildeFormat.Text

-- ====================================================== readable form

/-- The characters of a readable form between its quotes. -/
def escape : Text → Text
  | [] => []
  | c :: t =>
    if c = '"' ∨ c = '\\' then '\\' :: c :: escape t else c :: escape t

/-- The readable form of a text. -/
def readable (t : Text) : Text := '"' :: (escape t ++ [.scalar '"'])

-- ===================================================== displayed form

/-- The digits of `n` in base sixteen, filled up to `width`. -/
def hex (width n : Nat) : Text :=
  let ds : Text := (Nat.toDigits 16 n).map .scalar
  List.replicate (width - ds.length) (.scalar '0') ++ ds

/-- The quote that spares escapes. -/
def quoteFor (t : Text) : Character :=
  if t.contains '\'' && !t.contains '"' then '"' else '\''

/-- An escape by code point, as short as the code point allows. -/
def escapeCode (code : Nat) : Text :=
  if code < 0x100 then '\\' :: 'x' :: hex 2 code
  else if code < 0x10000 then '\\' :: 'u' :: hex 4 code
  else '\\' :: 'U' :: hex 8 code

/-- One character of a displayed form; `shown` tells the characters that
need no escape. -/
def displayChar (shown : Character → Bool) (quote c : Character) : Text :=
  if c = quote ∨ c = '\\' then ['\\', c]
  else if c = '\n' then ['\\', 'n']
  else if c = '\r' then ['\\', 'r']
  else if c = '\t' then ['\\', 't']
  else if shown c then [c]
  else escapeCode c.toNat

/-- The displayed form of a text. -/
def displayed (t : Text) : Text :=
  let q := quoteFor t
  q :: (t.flatMap (displayChar isPrintable q) ++ [q])

/-- The printable characters of ASCII. -/
def isPlainAscii (c : Character) : Bool :=
  0x20 ≤ c.toNat && c.toNat ≤ 0x7E

/-- The displayed form of octets. -/
def displayedOctets (bytes : List UInt8) : Text :=
  let t : Text := bytes.map fun b => .ofNat b.toNat
  let q := quoteFor t
  'b' :: q :: (t.flatMap (displayChar isPlainAscii q) ++ [q])

end TildeFormat.Text
