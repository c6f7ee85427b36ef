/-
What a program can hold, and what it means that an encoding stands for it.

A program obtains a record from a constructor or from decoded material, and then does things to it
and to copies of it in any order.  `Usage` says for each kind what its constructors give and with
what arguments its fields are changed; `Held.Reachable` are the records that come of it.

Records are compared by their fields.  `Usage.bare` takes away the encodings that records inside a
record keep, since no field shows them, and `Usage.onWire` rounds what the wire cannot carry.

* `Record.Fits` — the record's encoding can be addressed, which holds of all that a machine stores;
* `Record.ReadsBack` — a block stands for a record: decoding gives its fields, and writing these
  gives what writing the record gives, down to the records inside;
* `Cached.Coherent` — the encoding that a record keeps, if it keeps one, stands for it;
* `Kind.recordType` — the record type of each kind, for statements about all of them.
-/
import NamedData.Record.Session
import NamedData.Proofs.Lookup
import NamedData.Proofs.TypeNumbers

namespace NamedData

/-- Where the things in a history may come from. -/
inductive Provenance where
  /-- From constructors and changes alone. -/
  | built
  /-- From decoded bytes as well. -/
  | received
deriving DecidableEq, Repr

/-- How programs use a kind of record. -/
class Usage (α : Type) (ε : outParam Type) [Record α] where
  /-- What the constructors give. -/
  Constructed : α → Prop := fun x => x = Record.initial
  /-- The changes that can be asked for. -/
  Allowed : Provenance → ε → Prop := fun _ _ => True
  /-- The record without the encodings that records inside it keep. -/
  bare : α → α := id
  /-- The record with its fields rounded to what the wire can carry. -/
  onWire : α → α := id
  /-- The records inside it can be encoded by themselves. -/
  NestedFits : α → Prop := fun _ => True
  /-- The encodings that records inside it keep stand for those records. -/
  NestedCoherent : α → Prop := fun _ => True

namespace Record

variable {α ε : Type} [Record α] [Usage α ε]

/-- The encoding is no longer than the greatest position, and so are those of the records
inside. -/
def Fits (x : α) : Prop := estimate x ≤ maxPosition ∧ Usage.NestedFits (Usage.bare x)

/-- Two records have the same fields. -/
def SameFields (x y : α) : Prop := Usage.bare x = Usage.bare y

/-- Decoding the block gives the fields of the record, as far as the wire carries them, and what
it gives is written as the record is. -/
def ReadsBack (b : Block) (x : α) : Prop :=
  ∃ c : Cached α, Cached.ofBlock b = .ok c ∧
    Usage.bare c.fields = Usage.onWire (Usage.bare x) ∧ Record.fields c.fields = Record.fields x

end Record

/-- If the record has its encoding, then as an element of its kind that stands for the fields that
the record has now. -/
def Cached.Coherent {α ε : Type} [Record α] [Usage α ε] (c : Cached α) : Prop :=
  ∀ b, c.wire? = some b → Record.Fits c.fields →
    b.type = (Record.kind α).type ∧ Record.ReadsBack b c.fields

/-! ### Histories -/

/-- What may be done to a record of some provenance. A block to decode is well formed, as all blocks
are that decoding, splitting, patching and encoding give. -/
def Operation.Allowed {α ε : Type} [Record α] [Usage α ε] (p : Provenance) : Operation ε → Prop
  | .edit change => Usage.Allowed α p change
  | .decode b => p = .received ∧ b.WellFormed
  | _ => True

namespace Held

variable {α ε : Type} [Record α] [Form α] [Editable α ε] [Usage α ε]

/-- A record as a program first gets hold of it. -/
inductive Obtained : Provenance → Held α → Prop where
  | constructed {p : Provenance} {x : α} (h : Usage.Constructed x) : Obtained p (ofFields x)
  | ofBlock {b : Block} {c : Cached α} (hb : b.WellFormed) (h : Cached.ofBlock b = .ok c) :
    Obtained .received { toCached := c }
  | ofWire {bs : Bytes} {c : Cached α} (h : Cached.ofWire bs = .ok c) :
    Obtained .received { toCached := c }

/-- A record that a program can hold after doing any number of things in any order. -/
def Reachable (p : Provenance) (h : Held α) : Prop :=
  ∃ (first : Held α) (ops : List (Operation ε)), Obtained p first ∧
    (∀ op ∈ ops, op.Allowed (α := α) p) ∧ ((Session.start first).run ops).2.current = h

end Held

/-! ### Selectors -/

instance : Usage ReplicationSelectors ReplicationSelectors.Edit where

instance : Usage LegacyReplicationSelectors LegacyReplicationSelectors.Edit where
  Allowed
    | _, .setExclude filter => filter.Built
    | _, _ => True

instance : Usage StrategySelectors StrategySelectors.Edit where

instance : Usage PdrmStrategySelectors PdrmStrategySelectors.Edit where

/-! ### Packets -/

instance : Usage Announcement Announcement.Edit where
  Constructed a := a = {} ∨ ∃ name nonce timeout, a = Announcement.create name nonce timeout

instance : Usage Hint Hint.Edit where
  Constructed h := ∃ name scope, h = { name := name, scope := scope }
  Allowed
    | p, .setSelectors selectors =>
      ∃ held : Held ReplicationSelectors, held.Reachable p ∧ held.toCached = selectors
    | p, .inSelectors edit => Usage.Allowed ReplicationSelectors p edit
    | _, _ => True
  bare h := { h with selectors := { fields := h.selectors.fields } }
  NestedFits h := Record.Fits h.selectors.fields
  NestedCoherent h := h.selectors.Coherent

instance : Usage LegacyHint LegacyHint.Edit where
  Constructed h := ∃ name size, h = { name := name, size := size }
  Allowed
    | p, .setSelectors selectors =>
      ∃ held : Held LegacyReplicationSelectors, held.Reachable p ∧ held.toCached = selectors
    | p, .inSelectors edit => Usage.Allowed LegacyReplicationSelectors p edit
    | _, _ => True
  bare h := { h with selectors := { fields := h.selectors.fields } }
  NestedFits h := Record.Fits h.selectors.fields
  NestedCoherent h := h.selectors.Coherent

instance : Usage Vicinity Vicinity.Edit where
  Constructed v := ∃ name scope, v = { name := name, scope := scope }

instance : Usage VicinityData VicinityData.Edit where
  Constructed v := ∃ name nodeId, v = { name := name, nodeId := nodeId }

/-! ### Status records -/

namespace Duration

theorem wholeMillis_ofMillis (ms : UInt64) : (ofMillis ms).wholeMillis = ofMillis ms := by
  rw [← ofMillis_wireMillis, wireMillis_ofMillis]

theorem wireMillis_wholeMillis (d : Duration) : d.wholeMillis.wireMillis = d.wireMillis :=
  wireMillis_ofMillis d.wireMillis

end Duration

/-- The point in time cut to whole milliseconds, and to the beginning of 1970 if it lies
before. -/
def Timestamp.wholeMillis (t : Timestamp) : Timestamp :=
  if t.seconds < 0 then epoch
  else
    { seconds := t.seconds
      nanoseconds := t.nanoseconds / 10 ^ 6 * 10 ^ 6
      lower := t.lower
      upper := t.upper
      subsecond := by
        have := t.subsecond
        omega }

instance : Usage FaceStatus FaceStatus.Edit where
  onWire s := { s with expirationPeriod := s.expirationPeriod.map Duration.wholeMillis }

instance : Usage ForwarderStatus ForwarderStatus.Edit where
  Allowed
    | _, .setStartTimestamp time => time.inLeapSecond = false
    | _, .setCurrentTimestamp time => time.inLeapSecond = false
    | _, _ => True
  onWire s :=
    { s with
      startTimestamp := s.startTimestamp.wholeMillis
      currentTimestamp := s.currentTimestamp.wholeMillis }

/-! ### All kinds -/

/-- A type of records with what can be done to them. -/
structure RecordType where
  /-- The fields. -/
  Fields : Type
  /-- The changes. -/
  Edit : Type
  [record : Record Fields]
  [form : Form Fields]
  [editable : Editable Fields Edit]
  [usage : Usage Fields Edit]

attribute [instance] RecordType.record RecordType.form RecordType.editable RecordType.usage

namespace Kind

/-- The records of a kind. -/
def recordType : Kind → RecordType
  | .announcement => ⟨Announcement, Announcement.Edit⟩
  | .hint => ⟨Hint, Hint.Edit⟩
  | .legacyHint => ⟨LegacyHint, LegacyHint.Edit⟩
  | .vicinity => ⟨Vicinity, Vicinity.Edit⟩
  | .vicinityData => ⟨VicinityData, VicinityData.Edit⟩
  | .replicationSelectors => ⟨ReplicationSelectors, ReplicationSelectors.Edit⟩
  | .legacyReplicationSelectors =>
    ⟨LegacyReplicationSelectors, LegacyReplicationSelectors.Edit⟩
  | .strategySelectors => ⟨StrategySelectors, StrategySelectors.Edit⟩
  | .pdrmStrategySelectors => ⟨PdrmStrategySelectors, PdrmStrategySelectors.Edit⟩
  | .faceStatus => ⟨FaceStatus, FaceStatus.Edit⟩
  | .forwarderStatus => ⟨ForwarderStatus, ForwarderStatus.Edit⟩

/-- Whether the kind is one of the two status records. -/
def isStatus : Kind → Bool
  | .faceStatus => true
  | .forwarderStatus => true
  | _ => false

theorem kind_recordType (k : Kind) : Record.kind k.recordType.Fields = k := by cases k <;> rfl

instance (k : Kind) : Record.LawfulNumbers k.recordType.Fields := by
  cases k <;> exact ⟨rfl, rfl⟩

theorem expectedType_recordType (k : Kind) : Record.expectedType k.recordType.Fields = k.type := by
  rw [Record.LawfulNumbers.expected_eq, kind_recordType]

theorem writtenType_recordType (k : Kind) : Record.writtenType k.recordType.Fields = k.type := by
  rw [Record.LawfulNumbers.written_eq, kind_recordType]

/-- Nothing but a status record has fields that the wire rounds. -/
theorem onWire_eq_self {k : Kind} (h : k.isStatus = false) (x : k.recordType.Fields) :
    Usage.onWire x = x := by
  cases k with
  | faceStatus => cases h
  | forwarderStatus => cases h
  | _ => rfl

end Kind

end NamedData
