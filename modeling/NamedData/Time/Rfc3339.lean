/-
Points in time as text, after RFC 3339.

Writing gives a date, `T`, a time with as many groups of three decimals as are needed, and the
offset from universal time. A year outside 0 to 9999 has a sign. Reading is more lenient: digits
may be missing in front, blanks may stand around the parts, and any offset below a day is taken.

* `text` — a point in time, with a given spelling of universal time;
* `parse?` — the point in time that a text stands for.
-/
import NamedData.Time.Calendar
import NamedData.Time.Timestamp
import NamedData.Text.Decimal
import NamedData.Text.Blank

namespace NamedData.Rfc3339

open Text

/-! ### Writing -/

/-- A year: four digits, or a sign and at least four. -/
def yearChars (year : Int) : List Char :=
  if 0 ≤ year ∧ year ≤ 9999 then padded 4 year.toNat
  else (if year < 0 then '-' else '+') :: padded 4 year.natAbs

/-- A fraction of a second: nothing, or a period and three, six or nine digits. -/
def fractionChars (nanoseconds : Nat) : List Char :=
  if nanoseconds = 0 then []
  else if nanoseconds % 10 ^ 6 = 0 then '.' :: padded 3 (nanoseconds / 10 ^ 6)
  else if nanoseconds % 10 ^ 3 = 0 then '.' :: padded 6 (nanoseconds / 10 ^ 3)
  else '.' :: padded 9 nanoseconds

/-- A point in time, with the spelling `zone` for universal time. -/
def chars (zone : List Char) (t : Timestamp) : List Char :=
  let date := Calendar.dateOfDays (t.seconds / 86400)
  let second := t.secondOfDay.toNat
  let leap := if t.inLeapSecond then 1 else 0
  yearChars date.year ++ ['-'] ++ padded 2 date.month ++ ['-'] ++ padded 2 date.day ++ ['T'] ++
    padded 2 (second / 3600) ++ [':'] ++ padded 2 (second / 60 % 60) ++ [':'] ++
    padded 2 (second % 60 + leap) ++ fractionChars (t.nanoseconds % 10 ^ 9) ++ zone

/-- A point in time with a numeric offset. -/
def text (t : Timestamp) : String := String.ofList (chars ['+', '0', '0', ':', '0', '0'] t)

/-- A point in time with the letter for universal time. -/
def textZulu (t : Timestamp) : String := String.ofList (chars ['Z'] t)

/-! ### Reading -/

/-- Takes a number of at most `most` digits off the front of a text; there has to be one digit. -/
def readNumber (most : Nat) (cs : List Char) : Option (Nat × List Char) :=
  let digits := (cs.take most).takeWhile Char.isDigit
  if digits.isEmpty then none else some (digitsValue digits, cs.drop digits.length)

/-- Takes a year off the front: at most four digits, or a sign and any number of them. -/
def readYear (cs : List Char) : Option (Int × List Char) :=
  match trimStart cs with
  | '-' :: rest => (readNumber rest.length rest).map fun (n, after) => (-(n : Int), after)
  | '+' :: rest => (readNumber rest.length rest).map fun (n, after) => ((n : Int), after)
  | cs => (readNumber 4 cs).map fun (n, after) => ((n : Int), after)

/-- Takes a number of one or two digits off the front, between two limits. -/
def readPart (least greatest : Nat) (cs : List Char) : Option (Nat × List Char) := do
  let (n, after) ← readNumber 2 (trimStart cs)
  if least ≤ n ∧ n ≤ greatest then return (n, after) else none

/-- Takes a mark, with or without blanks before it, off the front. -/
def readMark (mark : Char) (cs : List Char) : Option (List Char) :=
  afterStart? [mark] (trimStart cs)

/-- Takes a fraction off the front, if there is one: its nanoseconds. Digits past the ninth are
passed over. -/
def readFraction : List Char → Option (Nat × List Char)
  | '.' :: rest =>
    let digits := rest.takeWhile Char.isDigit
    if digits.isEmpty then none
    else
      let kept := digits.take 9
      some (digitsValue kept * 10 ^ (9 - kept.length), rest.dropWhile Char.isDigit)
  | cs => some (0, cs)

/-- Takes the sign of an offset off the front: whether it is behind universal time. -/
def readOffsetSign : List Char → Option (Bool × List Char)
  | '+' :: rest => some (false, rest)
  | '-' :: rest => some (true, rest)
  | '\u2212' :: rest => some (true, rest)
  | _ => none

/-- Takes two digits off the front. -/
def readTwoDigits : List Char → Option (Nat × List Char)
  | a :: b :: rest =>
    if a.isDigit ∧ b.isDigit then some (digitsValue [a, b], rest) else none
  | _ => none

/-- Takes an offset off the front: its seconds. -/
def readOffset (cs : List Char) : Option (Int × List Char) :=
  match trimStart cs with
  | 'Z' :: rest => some (0, rest)
  | 'z' :: rest => some (0, rest)
  | cs =>
    if (cs.take 3).map Char.toUpper = ['U', 'T', 'C'] then some (0, cs.drop 3)
    else do
      let (behind, rest) ← readOffsetSign cs
      let (hours, rest) ← readTwoDigits rest
      let (minutes, rest) ← readTwoDigits (rest.dropWhile fun c => c = ':' || isBlank c)
      let seconds : Int := hours * 3600 + minutes * 60
      if minutes < 60 ∧ seconds < 86400 then return (if behind then -seconds else seconds, rest)
      else none

/-- Takes a date off the front. -/
def readDate (cs : List Char) : Option (Calendar.Date × List Char) := do
  let (year, cs) ← readYear cs
  let cs ← readMark '-' cs
  let (month, cs) ← readPart 1 12 cs
  let cs ← readMark '-' cs
  let (day, cs) ← readPart 1 31 cs
  let date : Calendar.Date := ⟨year, month, day⟩
  if Calendar.isValid date ∧ -262143 ≤ year ∧ year ≤ 262142 then return (date, cs) else none

/-- Takes a time of day off the front: its second and nanoseconds. The sixtieth second of a minute
is a leap second. -/
def readTime (cs : List Char) : Option ((Int × Nat) × List Char) := do
  let (hour, cs) ← readPart 0 23 cs
  let cs ← readMark ':' cs
  let (minute, cs) ← readPart 0 59 cs
  let cs ← readMark ':' cs
  let (second, cs) ← readPart 0 60 cs
  let (fraction, cs) ← readFraction cs
  let upToMinute : Int := hour * 3600 + minute * 60
  if second = 60 then return ((upToMinute + 59, 10 ^ 9 + fraction), cs)
  else return ((upToMinute + second, fraction), cs)

/-- The point in time that a text given as characters stands for. -/
def ofChars? (cs : List Char) : Option Timestamp := do
  let (date, cs) ← readDate cs
  match cs with
  | separator :: cs =>
    if separator = 'T' || separator = 't' || separator = ' ' then
      let ((second, nanoseconds), cs) ← readTime cs
      let (offset, cs) ← readOffset cs
      if (trimStart cs).isEmpty then
        Timestamp.ofUnix? (Calendar.daysOfDate date * 86400 + second - offset) nanoseconds
      else none
    else none
  | [] => none

/-- The point in time that a text stands for. -/
def parse? (s : String) : Option Timestamp := ofChars? s.toList

end NamedData.Rfc3339
