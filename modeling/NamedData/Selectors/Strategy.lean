/-
Strategy selectors: a scope, a node's number, the flag that it is interested and its
availability, in this order, each only when set.
-/
import NamedData.Record.Form

namespace NamedData

/-- The selectors of a forwarding strategy. -/
structure StrategySelectors where
  /-- How far the strategy reaches. -/
  scope : Option UInt64 := none
  /-- The number of the node. -/
  nodeId : Option UInt64 := none
  /-- Whether the node is interested. -/
  interested : Bool := false
  /-- The node's availability. -/
  availability : Option UInt64 := none
deriving DecidableEq, Repr

namespace StrategySelectors

/-- Whether nothing is set. -/
def isEmpty (s : StrategySelectors) : Bool :=
  s.scope.isNone && s.nodeId.isNone && !s.interested && s.availability.isNone

instance : Record StrategySelectors where
  kind := .strategySelectors
  expectedType := TypeNumber.strategySelectors
  writtenType := TypeNumber.strategySelectors
  initial := {}
  fields s :=
    Layout.integer? TypeNumber.scope s.scope ++
      Layout.integer? TypeNumber.nodeId s.nodeId ++
      Layout.flag TypeNumber.interested s.interested ++
      Layout.integer? TypeNumber.availability s.availability
  read children := do
    let kind := Kind.strategySelectors
    let scope ← Lookup.integer? kind TypeNumber.scope children
    let nodeId ← Lookup.integer? kind TypeNumber.nodeId children
    let availability ← Lookup.integer? kind TypeNumber.availability children
    return ⟨scope, nodeId, Lookup.has TypeNumber.interested children, availability⟩

/-- A change to strategy selectors. -/
inductive Edit where
  | setScope (value : Option UInt64)
  | setNodeId (id : Option UInt64)
  | setInterested (on : Bool)
  | setAvailability (value : Option UInt64)
deriving DecidableEq, Repr

/-- The selectors after a change, which drops their encoding. -/
def Edit.apply : Edit → Cached StrategySelectors → Cached StrategySelectors
  | .setScope value, c => c.edit fun s => { s with scope := value }
  | .setNodeId id, c => c.edit fun s => { s with nodeId := id }
  | .setInterested on, c => c.edit fun s => { s with interested := on }
  | .setAvailability value, c => c.edit fun s => { s with availability := value }

instance : Editable StrategySelectors Edit := ⟨Edit.apply⟩

instance : Form StrategySelectors where
  members s :=
    [("scope", .orNull .word s.scope), ("node_id", .orNull .word s.nodeId),
      ("interested", .bool s.interested), ("availability", .orNull .word s.availability)]
  ofJson? j := do
    match ← j.fields? ["scope", "node_id", "interested", "availability"] with
    | [scope, nodeId, interested, availability] =>
      return ⟨← Json.optional Json.word? scope, ← Json.optional Json.word? nodeId,
        ← Json.required Json.bool? interested, ← Json.optional Json.word? availability⟩
    | _ => none

end StrategySelectors

end NamedData
