/-
Points in time, as seconds and nanoseconds since 1 January 1970, universal time.

The years from -262143 to 262142 can be held. A leap second is held as the last second of its
minute with a thousand million nanoseconds more. On the wire a point in time is a number of whole
milliseconds, and one before 1970 becomes 1970.

* `ofMillis?` — the point in time that a number of milliseconds stands for, if it can be held;
* `wholeSecondsUntil` — the whole seconds from one point in time to another.
-/

namespace NamedData

/-- A point in time. -/
structure Timestamp where
  /-- Whole seconds since the beginning of 1970. -/
  seconds : Int
  /-- Nanoseconds beyond them. -/
  nanoseconds : Nat
  /-- The year is at least -262143. -/
  lower : -8334601228800 ≤ seconds
  /-- The year is at most 262142. -/
  upper : seconds ≤ 8210266876799
  /-- Only the last second of a minute may be followed by a leap second. -/
  subsecond : nanoseconds < 10 ^ 9 ∨ (nanoseconds < 2 * 10 ^ 9 ∧ seconds % 60 = 59)
deriving DecidableEq, Repr

namespace Timestamp

/-- The beginning of 1970. -/
def epoch : Timestamp where
  seconds := 0
  nanoseconds := 0
  lower := by omega
  upper := by omega
  subsecond := by omega

/-- The point in time with these seconds and nanoseconds, if it can be held. -/
def ofUnix? (seconds : Int) (nanoseconds : Nat) : Option Timestamp :=
  if h : -8334601228800 ≤ seconds ∧ seconds ≤ 8210266876799 ∧
      (nanoseconds < 10 ^ 9 ∨ (nanoseconds < 2 * 10 ^ 9 ∧ seconds % 60 = 59)) then
    some ⟨seconds, nanoseconds, h.1, h.2.1, h.2.2⟩
  else none

/-- The point in time a number of milliseconds after the beginning of 1970, if it can be held. -/
def ofMillis? (ms : Int) : Option Timestamp :=
  ofUnix? (ms / 1000) ((ms % 1000).toNat * 10 ^ 6)

/-- The whole milliseconds since the beginning of 1970, rounded down. -/
def millis (t : Timestamp) : Int := t.seconds * 1000 + (t.nanoseconds / 10 ^ 6 : Nat)

/-- The milliseconds as they travel. -/
def wireMillis (t : Timestamp) : UInt64 := UInt64.ofNat t.millis.toNat

/-- The second of the day. -/
def secondOfDay (t : Timestamp) : Int := t.seconds % 86400

/-- Whether the point in time lies in a leap second. -/
def inLeapSecond (t : Timestamp) : Bool := 10 ^ 9 ≤ t.nanoseconds

/-- The whole seconds from one point in time to another, rounded toward zero. A leap second on
the earlier side of the day counts as a second of its own. -/
def wholeSecondsUntil (start stop : Timestamp) : Int :=
  let leap : Int :=
    if start.secondOfDay < stop.secondOfDay ∧ start.inLeapSecond then 1
    else if stop.secondOfDay < start.secondOfDay ∧ stop.inLeapSecond then -1
    else 0
  let nanoseconds := (stop.seconds - start.seconds + leap) * 10 ^ 9 +
    (stop.nanoseconds : Int) - start.nanoseconds
  nanoseconds.tdiv (10 ^ 9)

end Timestamp

end NamedData
