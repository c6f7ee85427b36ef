/-
Blocks: an element together with its children, once its value has been split into elements.

A block that has not been split shows no children. Splitting again changes nothing, and a value
that does not split leaves the block as it was.

* `parse` — splits the value;
* `find?`, `get`, `findWithOffset?` — the first child of a type;
* `patch` — the block with some bytes of its encoding replaced, or the reason why not.
-/
import NamedData.Element
import NamedData.NonNegativeInteger

namespace NamedData

/-- An element and, once its value has been split, its children. -/
structure Block where
  /-- The element itself. -/
  element : Element
  /-- The children in order, when the value has been split. -/
  children? : Option (List Element)
deriving Repr

/-- The greatest number that a position or a size can be. -/
def maxPosition : Nat := 2 ^ 64 - 1

namespace Block

/-- A block that has not been split. -/
def ofElement (e : Element) : Block := ⟨e, none⟩

/-- The block of type zero without a value, split into no children. It stands in for an encoding
that cannot be read back. -/
def empty : Block := ⟨⟨0, [0, 0], []⟩, some []⟩

/-- The type number. -/
def type (b : Block) : UInt64 := b.element.type

/-- The whole encoding, header included. -/
def wire (b : Block) : Bytes := b.element.wire

/-- The bytes of the value. -/
def value (b : Block) : Bytes := b.element.value

/-- The number of bytes in the whole encoding. -/
def size (b : Block) : Nat := b.element.size

/-- Where the value begins inside the encoding. -/
def valueOffset (b : Block) : Nat := b.element.valueOffset

/-- Whether the value has been split. -/
def isParsed (b : Block) : Bool := b.children?.isSome

/-- The children in order; none until the value has been split. -/
def children (b : Block) : List Element := b.children?.getD []

/-- Blocks are compared by their encoding alone. -/
instance : BEq Block := ⟨fun a b => a.wire == b.wire⟩

/-- The block that takes up the front of a buffer, and the bytes after it. -/
def decodeFirst (bs : Bytes) : Except TlvError (Block × Bytes) :=
  (Element.decodeFirst bs).map fun (e, rest) => (ofElement e, rest)

/-- The block that a buffer is, when it is exactly one element. -/
def decode (bs : Bytes) : Except TlvError Block :=
  (Element.decode bs).map ofElement

/-- The block with its value split into children. -/
def parse (b : Block) : Except TlvError Block :=
  match b.children? with
  | some _ => .ok b
  | none => (Element.split b.value).map fun children => { b with children? := some children }

/-- The first child of a type. -/
def find? (b : Block) (type : UInt64) : Option Element :=
  b.children.find? (·.type = type)

/-- The first child of a type, which has to be there. -/
def get (b : Block) (type : UInt64) : Except TlvError Element :=
  match b.find? type with
  | some e => .ok e
  | none => .error (.missingElement type)

/-- The first element of a type in a list that begins at `offset`, with its own offset. -/
def findFrom (type : UInt64) : Nat → List Element → Option (Nat × Element)
  | _, [] => none
  | offset, e :: rest =>
    if e.type = type then some (offset, e) else findFrom type (offset + e.size) rest

/-- The first child of a type and where it begins inside the encoding. -/
def findWithOffset? (b : Block) (type : UInt64) : Option (Nat × Element) :=
  findFrom type b.valueOffset b.children

/-- The block with `bs` written over its encoding from `offset` on. The region has to lie inside
the value, and a block that was split has to split again. -/
def patch (b : Block) (offset : Nat) (bs : Bytes) : Except TlvError Block :=
  let stop := min (offset + bs.length) maxPosition
  if offset < b.valueOffset ∨ b.size < stop then .error (.truncated stop b.size)
  else do
    let patched ← decode (b.wire.take offset ++ bs ++ b.wire.drop stop)
    if b.isParsed then patched.parse else return patched

/-- The value read as an integer. -/
def integer (b : Block) : Except TlvError UInt64 := NonNegativeInteger.decode b.value

end Block

end NamedData
