/-
Characters: those of Unicode and, besides them, the halves of a surrogate
pair. A half has a code point but is no character in its own right. It
comes into a text where an escape or an octet that cannot be read puts
it, and is carried along like any other character. Only when the text is
to be put out does it make a difference, because no octets stand for it.
-/

namespace TildeFormat

/-- A character of a text.

- `scalar`: a character of Unicode.
- `half`: a half of a surrogate pair on its own, by its number among the
  halves. -/
inductive Character where
  | scalar (c : Char)
  | half (index : Fin 0x800)
deriving DecidableEq

namespace Character

instance : Coe Char Character := ⟨.scalar⟩

/-- The code point of a character. -/
def toNat : Character → Nat
  | scalar c => c.toNat
  | half index => 0xD800 + index

/-- The character with a code point; the null character where Unicode has
no such code point. -/
def ofNat (code : Nat) : Character :=
  if h : 0xD800 ≤ code ∧ code < 0xE000 then half ⟨code - 0xD800, by omega⟩
  else scalar (.ofNat code)

/-- Every character has a code point of its own. -/
theorem ofNat_toNat (c : Character) : ofNat c.toNat = c := by
  cases c with
  | scalar c =>
      have hvalid : c.toNat < 0xD800 ∨ 0xDFFF < c.toNat ∧ c.toNat < 0x110000 :=
        c.valid
      rw [ofNat, toNat, dif_neg (by omega), Char.ofNat_toNat]
  | half index =>
      have hindex := index.isLt
      rw [ofNat, toNat, dif_pos (by omega)]
      simp

/-- The character with a code point has no other one, but for the null
character. -/
theorem toNat_ofNat {code : Nat} (h : ofNat code ≠ '\x00') :
    (ofNat code).toNat = code := by
  by_cases hhalf : 0xD800 ≤ code ∧ code < 0xE000
  · rw [ofNat, dif_pos hhalf]
    exact Nat.add_sub_of_le hhalf.1
  · rw [ofNat, dif_neg hhalf] at h ⊢
    by_cases hvalid : code.isValidChar
    · rw [Char.ofNat, dif_pos hvalid]
      rfl
    · rw [Char.ofNat, dif_neg hvalid] at h
      exact absurd rfl h

/-- A digit of ASCII. -/
def isDigit : Character → Bool
  | scalar c => c.isDigit
  | half _ => false

@[simp]
theorem isDigit_scalar (c : Char) : (scalar c).isDigit = c.isDigit := rfl

/-- The digits are in one row. -/
theorem isDigit_iff {c : Character} :
    c.isDigit = true ↔ 48 ≤ c.toNat ∧ c.toNat ≤ 57 := by
  cases c with
  | scalar c =>
      simp only [isDigit, Char.isDigit, Bool.and_eq_true, decide_eq_true_eq,
        ge_iff_le, UInt32.le_iff_toNat_le]
      rfl
  | half index =>
      simp only [isDigit, toNat, Bool.false_eq_true, false_iff]
      omega

/-- A character with the capitals of ASCII made small. -/
def toLower : Character → Character
  | scalar c => c.toLower
  | half index => half index

/-- A character in characters of Unicode. There are none for a half, so it
is escaped by its code point. -/
def spelled : Character → List Char
  | scalar c => [c]
  | half index => '\\' :: 'u' :: Nat.toDigits 16 (0xD800 + index)

end Character

end TildeFormat
