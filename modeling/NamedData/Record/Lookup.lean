/-
Fields looked up among the children of an element.

Packets and selectors read each field from the first child of its type, wherever it stands; later
children of the type and children of other types do not matter.
-/
import NamedData.Record.Basic
import NamedData.Name.Basic

namespace NamedData.Lookup

/-- The first child of a type. -/
def first? (type : UInt64) (children : List Element) : Option Element :=
  children.find? (·.type = type)

/-- Whether there is a child of a type. -/
def has (type : UInt64) (children : List Element) : Bool := (first? type children).isSome

/-- An error that arose inside a record of a kind. -/
def inKind {α : Type} (kind : Kind) : Except TlvError α → Except PacketError α
  | .ok a => .ok a
  | .error e => .error (.element kind e)

/-- The integer in the first child of a type, if there is one. -/
def integer? (kind : Kind) (type : UInt64) (children : List Element) :
    Except PacketError (Option UInt64) :=
  match first? type children with
  | none => .ok none
  | some e => (inKind kind (NonNegativeInteger.decode e.value)).map some

/-- The name in the first child that is one; there has to be one. -/
def name (kind : Kind) (children : List Element) : Except PacketError Name :=
  match first? TypeNumber.name children with
  | none => .error (.element kind (.missingElement TypeNumber.name))
  | some e => inKind kind (Name.ofBlock (Block.ofElement e))

end NamedData.Lookup
