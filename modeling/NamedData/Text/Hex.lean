/-
Hexadecimal digits and byte strings written with them.

* `encode` — two lowercase digits for each byte;
* `decode` — the bytes again, from digits of either case, or the first thing wrong with them;
* `digitValue_lowerDigit` — each digit written reads back as its value.
-/
import NamedData.Bytes

namespace NamedData.Hex

/-- The lowercase digit of `d`, for `d < 16`. -/
def lowerDigit (d : Nat) : Char :=
  if d < 10 then Char.ofNat ('0'.toNat + d) else Char.ofNat ('a'.toNat + (d - 10))

/-- The uppercase digit of `d`, for `d < 16`. -/
def upperDigit (d : Nat) : Char :=
  if d < 10 then Char.ofNat ('0'.toNat + d) else Char.ofNat ('A'.toNat + (d - 10))

/-- The value of the digit with the code `code`, of either case. -/
def codeValue? (code : Nat) : Option Nat :=
  if 48 ≤ code ∧ code ≤ 57 then some (code - 48)
  else if 97 ≤ code ∧ code ≤ 102 then some (code - 87)
  else if 65 ≤ code ∧ code ≤ 70 then some (code - 55)
  else none

/-- The value of a hexadecimal digit of either case. -/
def digitValue? (c : Char) : Option Nat := codeValue? c.toNat

/-- The value of a byte that is the ASCII code of a hexadecimal digit. -/
def byteValue? (b : UInt8) : Option Nat := codeValue? b.toNat

theorem digitValue_lowerDigit : ∀ d < 16, digitValue? (lowerDigit d) = some d := by decide

theorem digitValue_upperDigit : ∀ d < 16, digitValue? (upperDigit d) = some d := by decide

/-- A byte is made of its two digits. -/
theorem ofNat_digits (b : UInt8) : UInt8.ofNat (b.toNat / 16 * 16 + b.toNat % 16) = b := by
  rw [Nat.div_add_mod', UInt8.ofNat_toNat]

/-- The byte that is made of two digits has these digits. -/
theorem digits_ofNat {m n : Nat} (hm : m < 16) (hn : n < 16) :
    (UInt8.ofNat (m * 16 + n)).toNat / 16 = m ∧ (UInt8.ofNat (m * 16 + n)).toNat % 16 = n := by
  rw [UInt8.toNat_ofNat', Nat.mod_eq_of_lt (by omega)]
  omega

/-- The digits of a byte string, two for each byte, in lowercase. -/
def encode (bs : Bytes) : List Char :=
  bs.flatMap fun b => [lowerDigit (b.toNat / 16), lowerDigit (b.toNat % 16)]

/-- The hexadecimal text of a byte string. -/
def text (bs : Bytes) : String := String.ofList (encode bs)

/-- Hexadecimal digits of a number, lowercase, without leading zeros; zero is written `0`. -/
def ofNat (n : Nat) : List Char :=
  if n < 16 then [lowerDigit n]
  else ofNat (n / 16) ++ [lowerDigit (n % 16)]
termination_by n

/-- What is wrong with a string of hexadecimal digits. -/
inductive DigitError where
  /-- The number of digits is odd. -/
  | oddLength
  /-- The character at this index, counted from zero, is no digit. -/
  | invalidDigit (code : UInt8) (index : Nat)
deriving DecidableEq, Repr

/-- The bytes that a string of digits stands for, taking two at a time; `index` is the place of
the first of them in the whole. -/
def decodePairs (index : Nat) : Bytes → Except DigitError Bytes
  | [] => .ok []
  | [_] => .error .oddLength
  | high :: low :: rest =>
    match byteValue? high, byteValue? low with
    | none, _ => .error (.invalidDigit high index)
    | some _, none => .error (.invalidDigit low (index + 1))
    | some h, some l =>
      (decodePairs (index + 2) rest).map (UInt8.ofNat (h * 16 + l) :: ·)

/-- The bytes that a string of digits stands for. An odd number of digits is found first,
whatever the digits are. -/
def decode (digits : Bytes) : Except DigitError Bytes :=
  if digits.length % 2 = 1 then .error .oddLength
  else decodePairs 0 digits

/-- The bytes written by hexadecimal characters, when there are an even number and nothing else. -/
def ofText? (s : String) : Option Bytes :=
  (decode (utf8 s)).toOption

end NamedData.Hex
