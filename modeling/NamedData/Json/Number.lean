/-
The range of JSON numbers.

A number is held as a significand below 2^64 and a power of ten, and its magnitude is the product
of both, each first rounded to double precision. Digits that no longer fit the significand scale
the number when they stand before the point and are dropped behind it. A number is in range when
the product does not round to infinity; one that is too small is zero and in range.

* `Scaled.ofDigits` — significand and power of ten of a number as it is written;
* `Scaled.isFinite` — whether it is in range.
-/
import NamedData.Text.Decimal

namespace NamedData.Json

/-- A significand and a power of ten. -/
structure Scaled where
  /-- The significand. -/
  significand : Nat
  /-- The exponent of ten. -/
  exponent : Int
deriving DecidableEq, Repr

/-- A number below 2^64 with digits appended as long as it stays below, and how many digits are
left then. -/
def appendDigits (n : Nat) : List Char → Nat × Nat
  | [] => (n, 0)
  | d :: rest =>
    let longer := n * 10 + Text.digitsValue [d]
    if longer < 2 ^ 64 then appendDigits longer rest else (n, rest.length + 1)

/-- The number with these digits before and behind the point, times ten to the exponent. -/
def Scaled.ofDigits (whole decimals : List Char) (exponent : Int) : Scaled :=
  let (n, unread) := appendDigits 0 whole
  let (n, dropped) := appendDigits n decimals
  ⟨n, exponent + unread - (decimals.length - dropped : Nat)⟩

/-- The multiple of a power of two nearest to `n` that has 53 binary digits before the zeros; of
two equally near the one whose digits are even. -/
def roundToDouble (n : Nat) : Nat :=
  let unit := 2 ^ (n.log2 - 52)
  let excess := n % unit
  if unit < 2 * excess ∨ (2 * excess = unit ∧ n / unit % 2 = 1) then n - excess + unit
  else n - excess

/-- Whether the number is in the range of double precision. -/
def Scaled.isFinite (s : Scaled) : Bool :=
  s.significand = 0 || s.exponent < 0 ||
    (s.exponent ≤ 308 &&
      roundToDouble s.significand * roundToDouble (10 ^ s.exponent.toNat) < Text.doubleLimit)

end NamedData.Json
