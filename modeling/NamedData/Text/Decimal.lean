/-
Decimal notation of natural numbers.

* `decimal` — the digits of a number, without leading zeros;
* `padded` — the same digits with leading zeros up to a width;
* `digitsValue` — the number that digits stand for;
* `isFiniteDouble` — whether a decimal number is in the range of double precision.
-/

namespace NamedData.Text

/-- The character of the decimal digit `d`, for `d < 10`. -/
def digitChar (d : Nat) : Char := Char.ofNat ('0'.toNat + d)

/-- The decimal digits of `n`, most significant first; zero is written `0`. -/
def decimal (n : Nat) : List Char :=
  if n < 10 then [digitChar n]
  else decimal (n / 10) ++ [digitChar (n % 10)]
termination_by n

/-- The number that decimal digits stand for. -/
def digitsValue (cs : List Char) : Nat :=
  cs.foldl (fun n c => n * 10 + (c.toNat - '0'.toNat)) 0

/-- The number that a text of decimal digits, and at least one, stands for. -/
def ofDecimal? (cs : List Char) : Option Nat :=
  if cs.isEmpty || !cs.all Char.isDigit then none else some (digitsValue cs)

/-- Takes the digits off the front of a text; there has to be at least one. -/
def readDigits (cs : List Char) : Option (List Char × List Char) :=
  let digits := cs.takeWhile Char.isDigit
  if digits.isEmpty then none else some (digits, cs.dropWhile Char.isDigit)

/-- The decimal digits of `n` with zeros in front, at least `width` characters. -/
def padded (width n : Nat) : List Char :=
  let digits := decimal n
  List.replicate (width - digits.length) '0' ++ digits

/-- The decimal notation of `n` as a text. -/
def natText (n : Nat) : String := String.ofList (decimal n)

/-- The decimal notation of a 64-bit word. -/
def wordText (n : UInt64) : String := natText n.toNat

/-- The least magnitude that rounds to infinity in double precision. -/
def doubleLimit : Nat := 2 ^ 1024 - 2 ^ 970

/-- Whether the number with these decimal digits, times ten to the exponent, is finite in double
precision. The place of the first digit decides except near the limit. -/
def isFiniteDouble (digits : List Char) (exponent : Int) : Bool :=
  let significant := digits.dropWhile (· = '0')
  let magnitude : Int := significant.length + exponent
  if significant.isEmpty || magnitude < 300 then true
  else if 310 < magnitude then false
  else if 0 ≤ exponent then digitsValue significant * 10 ^ exponent.toNat < doubleLimit
  else digitsValue significant < doubleLimit * 10 ^ (-exponent).toNat

end NamedData.Text
