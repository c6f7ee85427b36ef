/-
Packets: any record that stands on its own, decoded by its type number.

* `ofBlock`, `ofWire` — the packet that a block or a byte string stands for, under a schema;
* `encoding` — the packet's encoding;
* `toJson`, `ofJson?` — its JSON form, whose member `kind` says which kind it is;
* `text` — one line, or a report of several lines for a status record.
-/
import NamedData.Packet.Announcement
import NamedData.Packet.Hint
import NamedData.Packet.LegacyHint
import NamedData.Packet.Vicinity
import NamedData.Selectors.Strategy
import NamedData.Selectors.Pdrm
import NamedData.Status.Face
import NamedData.Status.Forwarder
import NamedData.Schema
import NamedData.Json.Printer
import NamedData.Json.Reader

namespace NamedData

/-- A record of any kind. -/
inductive Packet where
  | announcement (p : Held Announcement)
  | hint (p : Held Hint)
  | legacyHint (p : Held LegacyHint)
  | vicinity (p : Held Vicinity)
  | vicinityData (p : Held VicinityData)
  | replicationSelectors (s : Cached ReplicationSelectors)
  | legacyReplicationSelectors (s : Cached LegacyReplicationSelectors)
  | strategySelectors (s : Cached StrategySelectors)
  | pdrmStrategySelectors (s : Cached PdrmStrategySelectors)
  | faceStatus (s : Cached FaceStatus)
  | forwarderStatus (s : Cached ForwarderStatus)
deriving Repr

namespace Packet

/-- What a function that works on every kind of record gives for a packet. -/
def fold {β : Type} (f : {α : Type} → [Record α] → [Form α] → Cached α → β) : Packet → β
  | .announcement p => f p.toCached
  | .hint p => f p.toCached
  | .legacyHint p => f p.toCached
  | .vicinity p => f p.toCached
  | .vicinityData p => f p.toCached
  | .replicationSelectors s => f s
  | .legacyReplicationSelectors s => f s
  | .strategySelectors s => f s
  | .pdrmStrategySelectors s => f s
  | .faceStatus s => f s
  | .forwarderStatus s => f s

/-- The kind of the packet. -/
def kind : Packet → Kind
  | .announcement _ => .announcement
  | .hint _ => .hint
  | .legacyHint _ => .legacyHint
  | .vicinity _ => .vicinity
  | .vicinityData _ => .vicinityData
  | .replicationSelectors _ => .replicationSelectors
  | .legacyReplicationSelectors _ => .legacyReplicationSelectors
  | .strategySelectors _ => .strategySelectors
  | .pdrmStrategySelectors _ => .pdrmStrategySelectors
  | .faceStatus _ => .faceStatus
  | .forwarderStatus _ => .forwarderStatus

/-- The name that the packet carries, if it has one. -/
def name? (p : Packet) : Option Name :=
  p.fold fun {α} [Record α] [Form α] (c : Cached α) => Form.name? c.fields

/-- The encoding that the packet has, or would get. -/
def encoding (p : Packet) : Block :=
  p.fold fun {α} [Record α] [Form α] (c : Cached α) => c.encoding

/-- The encoding of the packet's fields, made afresh whatever encoding it has. -/
def encodeFresh (p : Packet) : Block :=
  p.fold fun {α} [Record α] [Form α] (c : Cached α) => Record.encodeFresh c.fields

/-- Packets are equal when they are of one kind and their encodings are the same bytes. -/
instance : BEq Packet := ⟨fun a b => a.kind == b.kind && a.encoding == b.encoding⟩

/-! ### Decoding -/

/-- A record that was just decoded, as it is held. -/
def holding {α : Type} (c : Cached α) : Held α := { toCached := c }

/-- The packet of a kind that a block stands for. -/
def ofBlockAs (b : Block) : Kind → Except PacketError Packet
  | .announcement => (Cached.ofBlock b).map fun c => .announcement (holding c)
  | .hint => (Cached.ofBlock b).map fun c => .hint (holding c)
  | .legacyHint => (Cached.ofBlock b).map fun c => .legacyHint (holding c)
  | .vicinity => (Cached.ofBlock b).map fun c => .vicinity (holding c)
  | .vicinityData => (Cached.ofBlock b).map fun c => .vicinityData (holding c)
  | .replicationSelectors => (Cached.ofBlock b).map .replicationSelectors
  | .legacyReplicationSelectors => (Cached.ofBlock b).map .legacyReplicationSelectors
  | .strategySelectors => (Cached.ofBlock b).map .strategySelectors
  | .pdrmStrategySelectors => (Cached.ofBlock b).map .pdrmStrategySelectors
  | .faceStatus => (Cached.ofBlock b).map .faceStatus
  | .forwarderStatus => (Cached.ofBlock b).map .forwarderStatus

/-- The kind that a block with a type number is decoded as under a schema. The last two numbers are
known to the older schema only. -/
def kindUnder? (schema : SchemaVersion) : UInt64 → Option Kind
  | TypeNumber.announcement => some .announcement
  | TypeNumber.hint => some .hint
  | TypeNumber.vicinity => some .vicinity
  | TypeNumber.vicinityData => some .vicinityData
  | TypeNumber.replicationSelectors => some .replicationSelectors
  | TypeNumber.strategySelectors => some .strategySelectors
  | TypeNumber.pdrmStrategySelectors => some .pdrmStrategySelectors
  | TypeNumber.faceStatus => some .faceStatus
  | TypeNumber.content => some .forwarderStatus
  | TypeNumber.legacyHint => if schema = .legacy then some .legacyHint else none
  | TypeNumber.legacyReplicationSelectors =>
    if schema = .legacy then some .legacyReplicationSelectors else none
  | _ => none

/-- The packet that a block stands for under a schema. -/
def ofBlock (schema : SchemaVersion) (b : Block) : Except PacketError Packet :=
  match kindUnder? schema b.type with
  | some kind => ofBlockAs b kind
  | none => .error (.unknownType b.type)

/-- An error in the framing of a byte string, scoped to the kind that its type number announces
under either schema, if it can be read and announces one. -/
def framingError (bs : Bytes) (cause : TlvError) : PacketError :=
  match VarNumber.read bs with
  | .ok (type, _) =>
    match Kind.ofType? type with
    | some kind => .element kind cause
    | none => .malformed cause
  | .error _ => .malformed cause

/-- The packet that a byte string stands for under a schema, when it is exactly one element. -/
def ofWire (schema : SchemaVersion) (bs : Bytes) : Except PacketError Packet :=
  match Block.decode bs with
  | .ok b => ofBlock schema b
  | .error e => .error (framingError bs e)

/-! ### Text -/

/-- The packet as text. Selectors show their kind and size only. -/
def text (p : Packet) : String :=
  p.fold fun {α} [Record α] [Form α] (c : Cached α) =>
    let label := (Record.kind α).label
    match Form.text? c.fields, Form.name? c.fields with
    | some text, some _ => label ++ " " ++ text
    | some text, none => text
    | none, _ => label ++ " (" ++ Text.natText c.encoding.size ++ " bytes)"

/-! ### JSON form -/

/-- The JSON form of the packet: its kind and then its fields. -/
def toJson (p : Packet) : Json :=
  p.fold fun {α} [Record α] [Form α] (c : Cached α) =>
    .object (("kind", .string (Record.kind α).tag) :: Form.members c.fields)

/-- A tag taken off a JSON value: off an object the only member of that name, off an array its
first item. -/
def tagged? (name : String) : Json → Option (String × Json)
  | .object members =>
    match members.filter fun m => m.1 == name with
    | [(_, .string tag)] => some (tag, .object (members.filter fun m => m.1 != name))
    | _ => none
  | .array (.string tag :: rest) => some (tag, .array rest)
  | _ => none

/-- A record as it is read from its JSON form: without an encoding. -/
def fresh? {α : Type} [Form α] (j : Json) : Option (Cached α) :=
  (Form.ofJson? j).map fun x => { fields := x }

/-- The packet of a kind that a JSON value stands for. -/
def ofJsonAs? (j : Json) : Kind → Option Packet
  | .announcement => (fresh? j).map fun c => .announcement (holding c)
  | .hint => (fresh? j).map fun c => .hint (holding c)
  | .legacyHint => (fresh? j).map fun c => .legacyHint (holding c)
  | .vicinity => (fresh? j).map fun c => .vicinity (holding c)
  | .vicinityData => (fresh? j).map fun c => .vicinityData (holding c)
  | .replicationSelectors => (fresh? j).map .replicationSelectors
  | .legacyReplicationSelectors => (fresh? j).map .legacyReplicationSelectors
  | .strategySelectors => (fresh? j).map .strategySelectors
  | .pdrmStrategySelectors => (fresh? j).map .pdrmStrategySelectors
  | .faceStatus => (fresh? j).map .faceStatus
  | .forwarderStatus => (fresh? j).map .forwarderStatus

/-- The packet that a JSON value stands for. -/
def ofJson? (j : Json) : Option Packet := do
  let (tag, content) ← tagged? "kind" j
  let kind ← Kind.all.find? fun k => k.tag = tag
  ofJsonAs? content kind

/-- The JSON text of the packet. -/
def jsonText (p : Packet) : String := p.toJson.text

/-- The packet that a JSON text stands for. -/
def ofJsonText? (s : String) : Option Packet := do
  ofJson? (← Json.parse? s)

end Packet

end NamedData
