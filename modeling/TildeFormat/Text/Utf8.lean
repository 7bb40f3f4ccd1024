/-
Text in octets. A character of Unicode has one to four of them, and a half
of a surrogate pair has none, so a text with a half cannot be encoded.

Octets are decoded one by one. Between them the reader is either behind a
character or inside one, and then it knows which octets may come next. It
stops at the first octet that belongs to no character, and the fault it
tells is about the character it was inside of, from its first octet on.
-/
import TildeFormat.Decimal.Numeral
import TildeFormat.Text.Quoted

namespace TildeFormat

/-- Octets. -/
abbrev Octets := List UInt8

/-- A half of a surrogate pair. -/
def Character.isHalf : Character → Bool
  | scalar _ => false
  | half _ => true

/-- The octets of a character. -/
def Character.octets : Character → Octets
  | scalar c => String.utf8EncodeChar c
  | half _ => []

namespace Utf8

/-- What a fault is about: one thing at its place, or several from a place
on. -/
def spot (thing : Text) (start count : Nat) : Text :=
  if count = 1 then
    Text.ofString " " ++ thing ++ Text.ofString " in position "
      ++ Numeral.digits start
  else
    Text.ofString "s in position " ++ Numeral.digits start
      ++ Text.ofString "-" ++ Numeral.digits (start + count - 1)

-- ============================================================ encoding

/-- Characters of a text that have no octets: the first of them, its
place, and how many halves stand there in a row. -/
structure EncodeFault where
  first : Character
  start : Nat
  count : Nat
deriving DecidableEq

/-- The text of a fault. -/
def EncodeFault.text (fault : EncodeFault) : Text :=
  let first : Text :=
    '\'' :: (Text.escapeCode fault.first.toNat ++ [.scalar '\''])
  Text.ofString "'utf-8' codec can't encode character"
    ++ spot first fault.start fault.count
    ++ Text.ofString ": surrogates not allowed"

/-- The first character of a text that is refused, and the halves behind
it. -/
def refusal? (refused : Character → Bool) (t : Text) :
    Option EncodeFault :=
  match t.dropWhile fun c => !refused c with
  | [] => none
  | c :: rest => some {
      first := c
      start := (t.takeWhile fun c => !refused c).length
      count := (rest.takeWhile Character.isHalf).length + 1 }

/-- The octets of a text. -/
def encode (t : Text) : Except EncodeFault Octets :=
  match refusal? Character.isHalf t with
  | some fault => .error fault
  | none => .ok (t.flatMap Character.octets)

-- ============================================================ decoding

/-- Why octets are not those of a text.

- `lead`: no character begins with the octet.
- `continuation`: a character does not go on with the octet behind.
- `ending`: the octets end inside a character. -/
inductive DecodeCause where
  | lead
  | continuation
  | ending
deriving DecidableEq

/-- The text of a cause. -/
def DecodeCause.text : DecodeCause → Text
  | lead => Text.ofString "invalid start byte"
  | continuation => Text.ofString "invalid continuation byte"
  | ending => Text.ofString "unexpected end of data"

/-- Octets that are not those of a character: the first of them, its
place, how many there are, and why. -/
structure DecodeFault where
  first : UInt8
  start : Nat
  count : Nat
  cause : DecodeCause
deriving DecidableEq

/-- The text of a fault. -/
def DecodeFault.text (fault : DecodeFault) : Text :=
  let first : Text := '0' :: 'x' :: Text.hex 2 fault.first.toNat
  Text.ofString "'utf-8' codec can't decode byte"
    ++ spot first fault.start fault.count
    ++ Text.ofString ": " ++ fault.cause.text

/-- A character that is not complete: its first octet, how many octets
there are of it and how many are missing, its code as far as it is known,
and the least and the greatest octet that may come next. -/
structure Pending where
  first : UInt8
  count : Nat := 1
  missing : Nat
  code : Nat
  low : Nat := 0x80
  high : Nat := 0xBF

namespace Pending

/-- The character that an octet begins. The octet behind it may not make
the character one with fewer octets, a half of a surrogate pair, or one
beyond Unicode. -/
def begun? (b : UInt8) : Option Pending :=
  let n := b.toNat
  if n < 0xC2 then none
  else if n < 0xE0 then
    some { first := b, missing := 1, code := n - 0xC0 }
  else if n < 0xF0 then
    some {
      first := b
      missing := 2
      code := n - 0xE0
      low := if n = 0xE0 then 0xA0 else 0x80
      high := if n = 0xED then 0x9F else 0xBF }
  else if n < 0xF5 then
    some {
      first := b
      missing := 3
      code := n - 0xF0
      low := if n = 0xF0 then 0x90 else 0x80
      high := if n = 0xF4 then 0x8F else 0xBF }
  else none

/-- An octet the character may go on with. -/
def accepts (p : Pending) (b : UInt8) : Bool :=
  p.low ≤ b.toNat && b.toNat ≤ p.high

/-- The code with the digits of an octet. -/
def codeWith (p : Pending) (b : UInt8) : Nat :=
  p.code * 0x40 + (b.toNat - 0x80)

/-- The character with an octet that does not complete it. -/
def continued (p : Pending) (b : UInt8) : Pending where
  first := p.first
  count := p.count + 1
  missing := p.missing - 1
  code := p.codeWith b

/-- A fault at a place behind the octets there are of the character. -/
def fault (p : Pending) (place : Nat) (cause : DecodeCause) :
    DecodeFault where
  first := p.first
  start := place - p.count
  count := p.count
  cause := cause

end Pending

/-- The text of octets from a place on, where a character may be
incomplete. -/
def decodeFrom (place : Nat) :
    Option Pending → Octets → Except DecodeFault Text
  | none, [] => .ok []
  | some p, [] => .error (p.fault place .ending)
  | none, b :: rest =>
    if b.toNat < 0x80 then
      (decodeFrom (place + 1) none rest).map (.ofNat b.toNat :: ·)
    else
      match Pending.begun? b with
      | none => .error ⟨b, place, 1, .lead⟩
      | some p => decodeFrom (place + 1) (some p) rest
  | some p, b :: rest =>
    if !p.accepts b then .error (p.fault place .continuation)
    else if p.missing = 1 then
      (decodeFrom (place + 1) none rest).map (.ofNat (p.codeWith b) :: ·)
    else decodeFrom (place + 1) (some (p.continued b)) rest

/-- The text of octets. -/
def decode (octets : Octets) : Except DecodeFault Text :=
  decodeFrom 0 none octets

end Utf8

end TildeFormat
