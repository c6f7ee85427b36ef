/-
JSON values.

An object keeps its members in the order in which they are written, repeated names included.
Numbers come in two forms: the naturals that fit 64 bits, which are the only numbers a record
holds, and all others, of which only the text is kept.
-/
import NamedData.Text.Decimal
import NamedData.Bytes

namespace NamedData

/-- A JSON value. -/
inductive Json where
  | null
  | bool (b : Bool)
  /-- A number below 2^64 written with digits only. -/
  | natural (n : Nat)
  /-- Any other number, as written. -/
  | otherNumber (text : List Char)
  | string (s : String)
  | array (items : List Json)
  | object (members : List (String × Json))
deriving Repr

namespace Json

/-- A 64-bit word. -/
def word (n : UInt64) : Json := .natural n.toNat

/-- A value that may be unset. -/
def orNull {α : Type} (f : α → Json) : Option α → Json
  | none => .null
  | some a => f a

/-- A byte string, as an array of numbers. -/
def bytes (bs : Bytes) : Json := .array (bs.map fun b => .natural b.toNat)

end Json

end NamedData
