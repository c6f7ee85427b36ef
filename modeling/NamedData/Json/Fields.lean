/-
Fields taken out of JSON values.

A record is an object, or an array with exactly its fields in order. In an object the order is
free and members with other names are passed over, but a field must not come twice.

* `fields?` — the values of named fields, absent ones marked;
* `required`, `optional` — how a field is read when it has to be there, and when it may be absent
  or null.
-/
import NamedData.Json.Value

namespace NamedData.Json

/-- The values of the named fields, in the order of the names. -/
def fields? (names : List String) : Json → Option (List (Option Json))
  | .object members =>
    if names.all fun name => (members.filter fun m => m.1 == name).length ≤ 1 then
      some (names.map fun name => members.lookup name)
    else none
  | .array items => if items.length = names.length then some (items.map some) else none
  | _ => none

/-- A field that has to be there. -/
def required {α : Type} (read : Json → Option α) (field : Option Json) : Option α :=
  field.bind read

/-- A field that may be absent or null. -/
def optional {α : Type} (read : Json → Option α) : Option Json → Option (Option α)
  | none => some none
  | some .null => some none
  | some j => (read j).map some

/-- The natural number below a limit that a value is. -/
def natBelow? (limit : Nat) : Json → Option Nat
  | .natural n => if n < limit then some n else none
  | _ => none

/-- The 64-bit word that a value is. -/
def word? (j : Json) : Option UInt64 := (natBelow? (2 ^ 64) j).map UInt64.ofNat

/-- The truth value that a value is. -/
def bool? : Json → Option Bool
  | .bool b => some b
  | _ => none

/-- The text that a value is. -/
def string? : Json → Option String
  | .string s => some s
  | _ => none

/-- The list that a value is, each item read alike. -/
def list? {α : Type} (read : Json → Option α) : Json → Option (List α)
  | .array items => items.mapM read
  | _ => none

/-- The byte string that an array of numbers is. -/
def bytes? (j : Json) : Option Bytes :=
  list? (fun item => (natBelow? 256 item).map UInt8.ofNat) j

/-- The name of a variant and what comes with it: a text alone, or an object whose only member
has that name. -/
def variant? : Json → Option (String × Option Json)
  | .string s => some (s, none)
  | .object [(s, content)] => some (s, some content)
  | _ => none

/-- Whether what comes with a variant says nothing. -/
def saysNothing : Option Json → Bool
  | none => true
  | some .null => true
  | some (.object []) => true
  | some _ => false

/-- The variant without content that a value names. -/
def unit? {α : Type} (variants : List (String × α)) (j : Json) : Option α := do
  let (name, content) ← variant? j
  if saysNothing content then variants.lookup name else none

end NamedData.Json
