/-
Lengths of time in nanoseconds, up to 2^64 seconds.

On the wire a length of time is a 64-bit number of whole milliseconds. What does not fit is cut:
the part below a millisecond is dropped, and a number that is too large becomes the largest.

* `ofMillis_wireMillis` — `wholeMillis` is what comes back from the wire;
* `wireMillis_ofMillis` — a number of milliseconds comes back unchanged.
-/
import NamedData.Json.Fields

namespace NamedData

/-- A length of time. -/
structure Duration where
  /-- The whole length in nanoseconds. -/
  nanoseconds : Nat
  /-- The seconds fit 64 bits. -/
  bounded : nanoseconds < 2 ^ 64 * 10 ^ 9
deriving DecidableEq, Repr

namespace Duration

/-- A number of milliseconds. -/
def ofMillis (ms : UInt64) : Duration where
  nanoseconds := ms.toNat * 10 ^ 6
  bounded := by
    have := ms.toNat_lt
    omega

/-- A number of seconds and further nanoseconds, unless that is too long. -/
def ofSeconds? (seconds nanoseconds : Nat) : Option Duration :=
  if h : seconds * 10 ^ 9 + nanoseconds < 2 ^ 64 * 10 ^ 9 then some ⟨_, h⟩ else none

/-- The whole seconds. -/
def seconds (d : Duration) : Nat := d.nanoseconds / 10 ^ 9

/-- The nanoseconds beyond the whole seconds. -/
def subsecond (d : Duration) : Nat := d.nanoseconds % 10 ^ 9

/-- The whole milliseconds. -/
def millis (d : Duration) : Nat := d.nanoseconds / 10 ^ 6

/-- The milliseconds as they travel. -/
def wireMillis (d : Duration) : UInt64 := UInt64.ofNat (min d.millis (2 ^ 64 - 1))

/-- The part of the length that can travel. -/
def wholeMillis (d : Duration) : Duration := ofMillis d.wireMillis

theorem ofMillis_wireMillis (d : Duration) : ofMillis d.wireMillis = d.wholeMillis := rfl

theorem wireMillis_ofMillis (ms : UInt64) : (ofMillis ms).wireMillis = ms := by
  have := ms.toNat_lt
  have whole : min (ofMillis ms).millis (2 ^ 64 - 1) = ms.toNat := by
    simp only [millis, ofMillis]
    omega
  rw [wireMillis, whole]
  simp

/-- The JSON form of a length of time. -/
def toJson (d : Duration) : Json :=
  .object [("secs", .natural d.seconds), ("nanos", .natural d.subsecond)]

/-- The length of time that a JSON value stands for. Nanoseconds may make up further seconds, and
an object must have no other member. -/
def ofJson? (j : Json) : Option Duration := do
  let names := ["secs", "nanos"]
  let closed := match j with
    | .object members => members.all fun m => names.contains m.1
    | _ => true
  if closed then
    match ← j.fields? names with
    | [secs, nanos] =>
      ofSeconds? (← Json.required (Json.natBelow? (2 ^ 64)) secs)
        (← Json.required (Json.natBelow? (2 ^ 32)) nanos)
    | _ => none
  else none

end Duration

end NamedData
