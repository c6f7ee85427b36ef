/-
Replication selectors: which nodes a hint is meant for.

Their element holds a node's number, the flag that it is interested and its availability, in this
order, each only when set.
-/
import NamedData.Record.Form

namespace NamedData

/-- The selectors that a hint carries. -/
structure ReplicationSelectors where
  /-- The number of the node. -/
  nodeId : Option UInt64 := none
  /-- Whether the node is interested. -/
  interested : Bool := false
  /-- The node's availability. -/
  availability : Option UInt64 := none
deriving DecidableEq, Repr

namespace ReplicationSelectors

/-- Whether nothing is set. Empty selectors are left out of a hint. -/
def isEmpty (s : ReplicationSelectors) : Bool :=
  s.nodeId.isNone && !s.interested && s.availability.isNone

instance : Record ReplicationSelectors where
  kind := .replicationSelectors
  expectedType := TypeNumber.replicationSelectors
  writtenType := TypeNumber.replicationSelectors
  initial := {}
  fields s :=
    Layout.integer? TypeNumber.nodeId s.nodeId ++
      Layout.flag TypeNumber.interested s.interested ++
      Layout.integer? TypeNumber.availability s.availability
  read children := do
    let kind := Kind.replicationSelectors
    let nodeId ← Lookup.integer? kind TypeNumber.nodeId children
    let availability ← Lookup.integer? kind TypeNumber.availability children
    return ⟨nodeId, Lookup.has TypeNumber.interested children, availability⟩

/-- A change to replication selectors. -/
inductive Edit where
  | setNodeId (id : Option UInt64)
  | setInterested (on : Bool)
  | setAvailability (value : Option UInt64)
deriving DecidableEq, Repr

/-- The selectors after a change, which drops their encoding. -/
def Edit.apply : Edit → Cached ReplicationSelectors → Cached ReplicationSelectors
  | .setNodeId id, c => c.edit fun s => { s with nodeId := id }
  | .setInterested on, c => c.edit fun s => { s with interested := on }
  | .setAvailability value, c => c.edit fun s => { s with availability := value }

instance : Editable ReplicationSelectors Edit := ⟨Edit.apply⟩

instance : Form ReplicationSelectors where
  members s :=
    [("node_id", .orNull .word s.nodeId), ("interested", .bool s.interested),
      ("availability", .orNull .word s.availability)]
  ofJson? j := do
    match ← j.fields? ["node_id", "interested", "availability"] with
    | [nodeId, interested, availability] =>
      return ⟨← Json.optional Json.word? nodeId, ← Json.required Json.bool? interested,
        ← Json.optional Json.word? availability⟩
    | _ => none

end ReplicationSelectors

end NamedData
