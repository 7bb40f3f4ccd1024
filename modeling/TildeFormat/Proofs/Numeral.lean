/-
Decimal numerals read back: the digits of a number are digits, there is
at least one of them and no zero in front without need, and they denote
the number, also when they are cut in two or filled up with zeros.

Everything is an induction on the way the digits are written, the last
one behind the digits of the tenth part.
-/
import TildeFormat.Decimal.Numeral
import TildeFormat.Decimal.Power

namespace TildeFormat.Numeral

theorem digits_of_lt {n : Nat} (h : n < 10) :
    digits n = [.scalar (Nat.digitChar n)] := by
  rw [digits, if_pos h]

theorem digits_of_ge {n : Nat} (h : 10 ≤ n) :
    digits n = digits (n / 10) ++ [.scalar (Nat.digitChar (n % 10))] := by
  rw [digits, if_neg (by omega)]

/-- The character of a digit has the value of the digit. -/
theorem digitValue_digitChar {n : Nat} (h : n < 10) :
    digitValue (Nat.digitChar n) = n := by
  match n, h with
  | 0, _ | 1, _ | 2, _ | 3, _ | 4, _ => rfl
  | 5, _ | 6, _ | 7, _ | 8, _ | 9, _ => rfl

/-- One more digit behind. -/
theorem value_append_singleton (ds : Text) (c : Character) :
    value (ds ++ [c]) = value ds * 10 + digitValue c := by
  rw [value, List.foldl_append]
  rfl

/-- A number has at least one digit. -/
theorem digits_ne_nil (n : Nat) : digits n ≠ [] := by
  by_cases h : n < 10
  · rw [digits_of_lt h]
    exact List.cons_ne_nil _ _
  · rw [digits_of_ge (by omega)]
    simp

theorem length_digits_pos (n : Nat) : 0 < (digits n).length :=
  List.length_pos_iff.mpr (digits_ne_nil n)

/-- The digits of a number are digits. -/
theorem isDigit_of_mem_digits {n : Nat} {c : Character} (h : c ∈ digits n) :
    c.isDigit = true := by
  induction n using digits.induct with
  | case1 n hn =>
      rw [digits_of_lt hn, List.mem_singleton] at h
      rw [h, Character.isDigit, Nat.isDigit_digitChar, decide_eq_true hn]
  | case2 n hn ih =>
      rw [digits_of_ge (by omega), List.mem_append,
        List.mem_singleton] at h
      rcases h with h | rfl
      · exact ih h
      · rw [Character.isDigit, Nat.isDigit_digitChar,
          decide_eq_true (by omega)]

/-- The digits of a number denote it. -/
theorem value_digits (n : Nat) : value (digits n) = n := by
  induction n using digits.induct with
  | case1 n hn =>
      rw [digits_of_lt hn]
      show 0 * 10 + digitValue (Nat.digitChar n) = n
      rw [digitValue_digitChar hn]
      omega
  | case2 n hn ih =>
      rw [digits_of_ge (by omega), value_append_singleton, ih,
        digitValue_digitChar (by omega)]
      omega

-- ====================================================== shape of a numeral

/-- A numeral has no zero in front, but for zero itself. -/
theorem eq_of_head?_digits {n : Nat}
    (h : (digits n).head? = some (.scalar '0')) :
    digits n = [.scalar '0'] := by
  have hzero : n = 0 := by
    induction n using digits.induct with
    | case1 n hn =>
        rw [digits_of_lt hn, List.head?_cons, Option.some.injEq] at h
        have hvalue := digitValue_digitChar hn
        rw [h] at hvalue
        exact hvalue.symm
    | case2 n hn ih =>
        rw [digits_of_ge (by omega), List.head?_append,
          List.head?_eq_some_head (digits_ne_nil _), Option.some_or,
          ← List.head?_eq_some_head] at h
        have := ih h
        omega
  rw [hzero]
  exact digits_of_lt (by decide)

/-- The decimal digits of a number: digits and nothing else, at least one
of them, no zero in front without need, and they denote the number. -/
structure IsNumeral (n : Nat) (ds : Text) : Prop where
  isDigit : ∀ c ∈ ds, c.isDigit = true
  ne_nil : ds ≠ []
  head : ds.head? = some (.scalar '0') → ds = [.scalar '0']
  value : value ds = n

theorem isNumeral_digits (n : Nat) : IsNumeral n (digits n) where
  isDigit _ := isDigit_of_mem_digits
  ne_nil := digits_ne_nil n
  head := eq_of_head?_digits
  value := value_digits n

/-- Below a power of ten there are at most as many digits as its
exponent. -/
theorem length_digits_le {n k : Nat} (hk : 0 < k) (h : n < power 10 k) :
    (digits n).length ≤ k := by
  induction n using digits.induct generalizing k with
  | case1 n hn =>
      rw [digits_of_lt hn]
      exact hk
  | case2 n hn ih =>
      obtain ⟨k, rfl⟩ : ∃ rest, k = rest + 1 := ⟨k - 1, by omega⟩
      rw [power_add, show power 10 1 = 10 from rfl] at h
      have hrest : 0 < k := by
        rcases Nat.eq_zero_or_pos k with rfl | hpos
        · rw [show power 10 0 = 1 from rfl] at h
          omega
        · exact hpos
      have := ih hrest (Nat.div_lt_of_lt_mul (by rwa [Nat.mul_comm]))
      rw [digits_of_ge (by omega), List.length_append,
        List.length_singleton]
      omega

/-- A number is below the power of ten with as many zeros as it has
digits. -/
theorem lt_power_length_digits (n : Nat) :
    n < power 10 (digits n).length := by
  induction n using digits.induct with
  | case1 n hn =>
      rw [digits_of_lt hn]
      exact hn
  | case2 n hn ih =>
      rw [digits_of_ge (by omega), List.length_append, power_add,
        List.length_singleton, show power 10 1 = 10 from rfl]
      omega

/-- A number that is not zero reaches the power of ten with as many
digits. -/
theorem power_length_digits_le {n : Nat} (h : n ≠ 0) :
    power 10 ((digits n).length - 1) ≤ n := by
  by_cases hone : (digits n).length = 1
  · rw [hone]
    exact Nat.one_le_iff_ne_zero.mpr h
  · refine Nat.le_of_not_lt fun hless => ?_
    have := length_digits_pos n
    have := length_digits_le (by omega) hless
    omega

-- ================================================================ reading

/-- What a numeral denotes when there are digits behind it. -/
theorem value_append (s t : Text) :
    value (s ++ t) = value s * power 10 t.length + value t := by
  have hfrom : ∀ n, t.foldl (fun n c => n * 10 + digitValue c) n
      = n * power 10 t.length + value t := by
    induction t with
    | nil =>
        intro n
        exact (Nat.mul_one n).symm
    | cons c t ih =>
        intro n
        have hfirst : value (c :: t)
            = (0 * 10 + digitValue c) * power 10 t.length + value t := ih _
        rw [List.foldl_cons, ih, hfirst, List.length_cons, power_add,
          show power 10 1 = 10 from rfl, Nat.add_mul, Nat.add_mul]
        grind
  rw [value, List.foldl_append]
  exact hfrom _

/-- The last digit of a numeral tells whether it denotes an even number. -/
theorem digitValue_mod_two {ds : Text} {last : Character}
    (h : ds.getLast? = some last) : digitValue last % 2 = value ds % 2 := by
  obtain ⟨rest, rfl⟩ := List.getLast?_eq_some_iff.mp h
  rw [value_append_singleton]
  omega

-- ================================================================= filling

theorem value_zeros (count : Nat) :
    value (List.replicate count (.scalar '0')) = 0 := by
  induction count with
  | zero => rfl
  | succ count ih =>
      rw [List.replicate_succ', value_append_singleton, ih]
      rfl

/-- Zeros in front change nothing. -/
theorem value_zeros_append (count : Nat) (ds : Text) :
    value (List.replicate count (.scalar '0') ++ ds) = value ds := by
  rw [value_append, value_zeros, Nat.zero_mul, Nat.zero_add]

theorem value_filled (width n : Nat) : value (filled width n) = n := by
  rw [filled, value_zeros_append, value_digits]

theorem isDigit_of_mem_filled {width n : Nat} {c : Character}
    (h : c ∈ filled width n) : c.isDigit = true := by
  rcases List.mem_append.mp h with hzero | hdigit
  · rw [List.eq_of_mem_replicate hzero]
    rfl
  · exact isDigit_of_mem_digits hdigit

/-- A number that fits is filled up to the width. -/
theorem length_filled {width n : Nat} (hwidth : 0 < width)
    (h : n < power 10 width) : (filled width n).length = width := by
  have := length_digits_le hwidth h
  rw [filled, List.length_append, List.length_replicate]
  omega

-- ================================================================ pieces

/-- The first digits of a numeral are a numeral. -/
theorem IsNumeral.take {n k : Nat} {ds : Text} (h : IsNumeral n ds)
    (hk : 0 < k) : IsNumeral (Numeral.value (ds.take k)) (ds.take k) where
  isDigit c hc := h.isDigit c (List.mem_of_mem_take hc)
  ne_nil hnil := by
    rcases List.take_eq_nil_iff.mp hnil with hzero | hnone
    · omega
    · exact h.ne_nil hnone
  head hzero := by
    rw [List.head?_take, if_neg (by omega)] at hzero
    rw [h.head hzero]
    exact List.take_of_length_le hk
  value := rfl

/-- Zeros behind a numeral are as many powers of ten more. -/
theorem IsNumeral.append_zeros {n : Nat} {ds : Text} (h : IsNumeral n ds)
    (count : Nat) (hn : n = 0 → count = 0) :
    IsNumeral (n * power 10 count)
      (ds ++ List.replicate count (.scalar '0')) where
  isDigit c hc := by
    rcases List.mem_append.mp hc with hdigit | hzero
    · exact h.isDigit c hdigit
    · rw [List.eq_of_mem_replicate hzero]
      rfl
  ne_nil hnil := h.ne_nil (List.append_eq_nil_iff.mp hnil).1
  head hzero := by
    rw [List.head?_append, List.head?_eq_some_head h.ne_nil, Option.some_or,
      ← List.head?_eq_some_head] at hzero
    have hds := h.head hzero
    have hcount : count = 0 := by
      refine hn ?_
      rw [← h.value, hds]
      rfl
    rw [hds, hcount]
    rfl
  value := by
    rw [value_append, h.value, value_zeros, List.length_replicate,
      Nat.add_zero]

end TildeFormat.Numeral
