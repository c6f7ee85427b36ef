/-
Records: what the eleven kinds have in common.

A kind of record says which fields its element is made of and how its fields are read from the
children of such an element. A `Cached` record is a record's fields together with its encoding,
once it was encoded or if it was decoded; changing a field drops the encoding. A `Held` record is
what a forwarder holds: a cached record and the header that the local link attached to it.

* `Cached.encode` — the encoding, made when there is none yet and kept from then on;
* `Cached.ofBlock` — the record that a block stands for, which keeps the block as its encoding;
* `encode_fst` — the block that `encode` gives is the one that `encoding` names.
-/
import NamedData.Kind
import NamedData.Layout
import NamedData.Log

namespace NamedData

/-- A kind of record, as far as its encoding goes. -/
class Record (α : Type) where
  /-- The kind. -/
  kind : Kind
  /-- The type number that decoding expects. -/
  expectedType : UInt64
  /-- The type number that encoding writes. -/
  writtenType : UInt64
  /-- The record before any field was set. -/
  initial : α
  /-- What the record's element is made of, in the declared order. -/
  fields : α → List Layout
  /-- The record that the children of its element stand for. -/
  read : List Element → Except PacketError α
  /-- The record after its fields were written: records inside it are encoded then and keep their
  encodings. -/
  settle : α → α := id
  /-- The encoding of the record inside it, if it always holds one, and the record after that. -/
  encodeNested? : α → Option (Block × α) := fun _ => none

namespace Record

variable {α : Type} [Record α]

/-- What the record's element is made of. -/
def layout (x : α) : Layout := .group (writtenType α) (fields x)

/-- The record's element encoded afresh, when it can be read back. -/
def encodeFresh? (x : α) : Except TlvError Block := (layout x).encode?

/-- The record's element encoded afresh. -/
def encodeFresh (x : α) : Block := (layout x).encode

/-- The number of bytes in the record's element. -/
def estimate (x : α) : Nat := (layout x).estimate

/-- The record that the children of a block stand for, after the block's type number was found to
be the expected one and its value was split. -/
def readBlock (b : Block) : Except PacketError (α × Block) :=
  if b.type = expectedType α then
    match b.parse with
    | .error e => .error (.element (kind α) e)
    | .ok parsed => (read parsed.children).map fun x => (x, parsed)
  else .error (.unexpectedType (kind α) (expectedType α) b.type)

end Record

/-- A record and its encoding, when it has one. -/
structure Cached (α : Type) where
  /-- The record itself. -/
  fields : α
  /-- Its encoding. -/
  wire? : Option Block := none
deriving Repr

namespace Cached

variable {α : Type} [Record α]

/-- Whether the record has its encoding. -/
def hasWire (c : Cached α) : Bool := c.wire?.isSome

/-- The record with its fields changed and its encoding dropped. -/
def edit (c : Cached α) (change : α → α) : Cached α := ⟨change c.fields, none⟩

/-- The encoding that the record has, or would get. -/
def encoding (c : Cached α) : Block := c.wire?.getD (Record.encodeFresh c.fields)

/-- The encoding, and the record that keeps it. -/
def encode (c : Cached α) : Block × Cached α :=
  match c.wire? with
  | some b => (b, c)
  | none =>
    let b := Record.encodeFresh c.fields
    (b, ⟨Record.settle c.fields, some b⟩)

theorem encode_fst (c : Cached α) : c.encode.1 = c.encoding := by
  unfold encode encoding
  cases c.wire? <;> rfl

/-- The record after its fields were written without keeping the result. -/
def settled (c : Cached α) : Cached α := { c with fields := Record.settle c.fields }

/-- Whether two records have the same encoding; both keep theirs. -/
def compare (a b : Cached α) : Bool × Cached α × Cached α :=
  let (wireA, a) := a.encode
  let (wireB, b) := b.encode
  (wireA == wireB, a, b)

/-- The record that a block stands for. -/
def ofBlock (b : Block) : Except PacketError (Cached α) :=
  (Record.readBlock b).map fun (x, parsed) => ⟨x, some parsed⟩

/-- The record that a byte string stands for, when it is exactly its element. -/
def ofWire (bs : Bytes) : Except PacketError (Cached α) :=
  match Block.decode bs with
  | .error e => .error (.element (Record.kind α) e)
  | .ok b => ofBlock b

end Cached

/-- What a forwarder's link layer notes beside a packet. It is never part of the encoding. -/
structure LocalControlHeader where
  /-- The face that the packet came from. -/
  incomingFace : Option UInt64 := none
  /-- The face that it has to leave by. -/
  nextHopFace : Option UInt64 := none
deriving DecidableEq, Repr

namespace LocalControlHeader

/-- Whether nothing is noted. -/
def isEmpty (h : LocalControlHeader) : Bool := h.incomingFace.isNone && h.nextHopFace.isNone

/-- A change to the header. -/
inductive Edit where
  /-- Notes the face that the packet came from. -/
  | incomingFace (face : UInt64)
  /-- Notes the face that it has to leave by. -/
  | nextHopFace (face : UInt64)
  /-- Takes all notes away. -/
  | clear
deriving DecidableEq, Repr

/-- The header after a change. -/
def apply (h : LocalControlHeader) : Edit → LocalControlHeader
  | .incomingFace face => { h with incomingFace := some face }
  | .nextHopFace face => { h with nextHopFace := some face }
  | .clear => {}

end LocalControlHeader

/-- A cached record and the header that goes with it. Selectors and status records are held in
the same way, with a header that stays empty. -/
structure Held (α : Type) extends Cached α where
  /-- What the link layer noted. -/
  localControl : LocalControlHeader := {}
deriving Repr

namespace Held

variable {α : Type} [Record α]

/-- A record that was just made. -/
def ofFields (x : α) : Held α := { fields := x }

/-- The record with its cached part replaced. -/
def withCached (h : Held α) (c : Cached α) : Held α := { h with toCached := c }

/-- The record that a block stands for, in place of what was held. The header stays. -/
def decode (h : Held α) (b : Block) : Except PacketError (Held α) :=
  (Cached.ofBlock b).map h.withCached

end Held

end NamedData
