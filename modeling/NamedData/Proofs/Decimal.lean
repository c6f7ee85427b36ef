/-
Decimal digits read back as the number that they were written for.

* `Text.digitsValue_decimal`, `Text.digitsValue_padded` — the value of the digits of a number;
* `Text.readDigits_append` — a reader takes the digits off the front and nothing else.
-/
import NamedData.Text.Decimal

namespace NamedData.Text

theorem isDigit_digitChar : ∀ d < 10, (digitChar d).isDigit = true := by decide

theorem toNat_digitChar : ∀ d < 10, (digitChar d).toNat = '0'.toNat + d := by decide

theorem digitChar_ne_zero : ∀ d < 10, d ≠ 0 → digitChar d ≠ '0' := by decide

/-! ### The digits of a number -/

theorem decimal_ne_nil (n : Nat) : decimal n ≠ [] := by
  rw [decimal]
  split <;> simp

theorem isDigit_of_mem_decimal {n : Nat} : ∀ c ∈ decimal n, c.isDigit = true := by
  -- along the recursion, which takes off the last digit
  induction n using Nat.strongRecOn with
  | ind n ih =>
    intro c hc
    rw [decimal] at hc
    split at hc
    · rename_i small
      rw [List.mem_singleton.mp hc]
      exact isDigit_digitChar n small
    · rcases List.mem_append.mp hc with front | last
      · exact ih (n / 10) (by omega) c front
      · rw [List.mem_singleton.mp last]
        exact isDigit_digitChar (n % 10) (Nat.mod_lt n (by decide))

theorem digitsValue_append_digit (cs : List Char) {d : Nat} (h : d < 10) :
    digitsValue (cs ++ [digitChar d]) = digitsValue cs * 10 + d := by
  rw [digitsValue, List.foldl_append, ← digitsValue]
  simp [toNat_digitChar d h]

/-- The digits of a number stand for it. -/
theorem digitsValue_decimal (n : Nat) : digitsValue (decimal n) = n := by
  induction n using Nat.strongRecOn with
  | ind n ih =>
    rw [decimal]
    split
    · rename_i small
      simpa [digitsValue] using digitsValue_append_digit [] small
    · rw [digitsValue_append_digit _ (Nat.mod_lt n (by decide)), ih (n / 10) (by omega)]
      omega

/-- Only zero is written with a zero in front. -/
theorem head_decimal {n : Nat} (h : n ≠ 0) : (decimal n).head? ≠ some '0' := by
  induction n using Nat.strongRecOn with
  | ind n ih =>
    rw [decimal]
    split
    · rename_i small
      simpa using digitChar_ne_zero n small h
    · have front := ih (n / 10) (by omega) (by omega)
      cases digits : decimal (n / 10) with
      | nil => exact absurd digits (decimal_ne_nil _)
      | cons c cs => simpa [digits] using front

theorem length_decimal_le {n : Nat} (width : Nat) (h : n < 10 ^ (width + 1)) :
    (decimal n).length ≤ width + 1 := by
  induction width generalizing n with
  | zero =>
    rw [decimal, if_pos (by simpa using h)]
    simp
  | succ width ih =>
    rw [decimal]
    split
    · simp
    · rw [Nat.pow_succ] at h
      have front := ih (n := n / 10) (by omega)
      simp only [List.length_append, List.length_singleton]
      omega

/-! ### Digits with zeros in front -/

theorem isDigit_of_mem_padded (width n : Nat) : ∀ c ∈ padded width n, c.isDigit = true := by
  intro c hc
  rcases List.mem_append.mp hc with zeros | digits
  · rw [List.eq_of_mem_replicate zeros]
    rfl
  · exact isDigit_of_mem_decimal c digits

theorem padded_ne_nil (width n : Nat) : padded width n ≠ [] :=
  List.append_ne_nil_of_right_ne_nil _ (decimal_ne_nil n)

theorem digitsValue_zeros (k : Nat) (cs : List Char) :
    digitsValue (List.replicate k '0' ++ cs) = digitsValue cs := by
  induction k with
  | zero => rfl
  | succ k ih => simpa [List.replicate_succ, digitsValue] using ih

theorem digitsValue_padded (width n : Nat) : digitsValue (padded width n) = n := by
  rw [padded, digitsValue_zeros, digitsValue_decimal]

theorem length_padded (width : Nat) {n : Nat} (h : n < 10 ^ (width + 1)) :
    (padded (width + 1) n).length = width + 1 := by
  have := length_decimal_le width h
  simp only [padded, List.length_append, List.length_replicate]
  omega

/-! ### Taking digits off the front -/

section

variable {ds rest : List Char}

/-- The text does not begin with a digit. -/
def EndsDigits (rest : List Char) : Prop := ∀ c ∈ rest.head?, c.isDigit = false

theorem endsDigits_cons {c : Char} (h : c.isDigit = false) (rest : List Char) :
    EndsDigits (c :: rest) := by
  intro d hd
  cases hd
  exact h

theorem takeWhile_isDigit_append (digits : ∀ c ∈ ds, c.isDigit = true) (stop : EndsDigits rest) :
    (ds ++ rest).takeWhile Char.isDigit = ds := by
  rw [List.takeWhile_append_of_pos digits]
  cases rest with
  | nil => simp
  | cons c rest => simp [stop c rfl]

theorem dropWhile_isDigit_append (digits : ∀ c ∈ ds, c.isDigit = true) (stop : EndsDigits rest) :
    (ds ++ rest).dropWhile Char.isDigit = rest := by
  rw [List.dropWhile_append_of_pos digits]
  cases rest with
  | nil => rfl
  | cons c rest => simp [stop c rfl]

/-- A reader takes the digits off the front and nothing else. -/
theorem readDigits_append (digits : ∀ c ∈ ds, c.isDigit = true) (nonempty : ds ≠ [])
    (stop : EndsDigits rest) : readDigits (ds ++ rest) = some (ds, rest) := by
  rw [readDigits, takeWhile_isDigit_append digits stop, dropWhile_isDigit_append digits stop]
  simp [nonempty]

end

end NamedData.Text
