/-
Fields read one after another from the children of a status record.

Each field has its place. A reader takes the next child if it has the field's type number; a field
that has to be there and is not the next one is missing, whatever comes later.

* `required`, `optional` — the next child, or none taken;
* `integer`, `optionalInteger`, `text`, `choice`, `timestamp` — what it stands for.
-/
import NamedData.Record.Form
import NamedData.Text.Utf8
import NamedData.Time.Timestamp

namespace NamedData

/-- Reads something off the front of a list of children. -/
abbrev FieldReader (α : Type) := StateT (List Element) (Except PacketError) α

namespace FieldReader

/-- The next child, which has to have this type number. -/
def required (kind : Kind) (type : UInt64) (field : String) : FieldReader Element
  | [] => .error (.missingField kind field)
  | e :: rest => if e.type = type then .ok (e, rest) else .error (.missingField kind field)

/-- The next child if it has this type number. -/
def optional (type : UInt64) : FieldReader (Option Element)
  | [] => .ok (none, [])
  | e :: rest => if e.type = type then .ok (some e, rest) else .ok (none, e :: rest)

/-- A result that does not depend on the children. -/
def lift {α : Type} (r : Except PacketError α) : FieldReader α := fun es => r.map fun a => (a, es)

/-- An integer. -/
def integer (kind : Kind) (type : UInt64) (field : String) : FieldReader UInt64 := do
  let e ← required kind type field
  lift (Lookup.inKind kind (NonNegativeInteger.decode e.value))

/-- An integer that may be absent. -/
def optionalInteger (kind : Kind) (type : UInt64) : FieldReader (Option UInt64) := do
  match ← optional type with
  | none => return none
  | some e => return some (← lift (Lookup.inKind kind (NonNegativeInteger.decode e.value)))

/-- A text; bytes that are none are replaced. -/
def text (kind : Kind) (type : UInt64) (field : String) : FieldReader String := do
  let e ← required kind type field
  return Utf8.textLossy e.value

/-- An integer that stands for something else, and may fail to. -/
def choice {α : Type} (kind : Kind) (type : UInt64) (field : String)
    (read : UInt64 → Option α) : FieldReader α := do
  let n ← integer kind type field
  match read n with
  | some a => return a
  | none => lift (.error (.invalidValue kind field n))

/-- A point in time, as milliseconds. -/
def timestamp (kind : Kind) (type : UInt64) (field : String) : FieldReader Timestamp :=
  choice kind type field fun n => Timestamp.ofMillis? n.toNat

end FieldReader

end NamedData
