/-
Selectors of the mobility strategy: seven numbers about a node and its whereabouts and the flag
that it is interested, in a fixed order, each only when set.
-/
import NamedData.Record.Form

namespace NamedData

/-- The selectors of the mobility strategy. -/
structure PdrmStrategySelectors where
  /-- How far the strategy reaches. -/
  scope : Option UInt64 := none
  /-- The number of the node. -/
  nodeId : Option UInt64 := none
  /-- The node's home network. -/
  homeNetwork : Option UInt64 := none
  /-- The place where the node prefers to be. -/
  preferredLocation : Option UInt64 := none
  /-- The time it spends there. -/
  timeSpentAtPreferredLocation : Option UInt64 := none
  /-- The place where it is. -/
  currentPosition : Option UInt64 := none
  /-- The node's availability. -/
  availability : Option UInt64 := none
  /-- Whether the node is interested. -/
  interest : Bool := false
deriving DecidableEq, Repr

namespace PdrmStrategySelectors

/-- Whether nothing is set. -/
def isEmpty (s : PdrmStrategySelectors) : Bool :=
  s.scope.isNone && s.nodeId.isNone && s.homeNetwork.isNone && s.preferredLocation.isNone &&
    s.timeSpentAtPreferredLocation.isNone && s.currentPosition.isNone &&
    s.availability.isNone && !s.interest

instance : Record PdrmStrategySelectors where
  kind := .pdrmStrategySelectors
  expectedType := TypeNumber.pdrmStrategySelectors
  writtenType := TypeNumber.pdrmStrategySelectors
  initial := {}
  fields s :=
    Layout.integer? TypeNumber.pdrmScope s.scope ++
      Layout.integer? TypeNumber.pdrmNodeId s.nodeId ++
      Layout.integer? TypeNumber.pdrmHomeNetwork s.homeNetwork ++
      Layout.integer? TypeNumber.pdrmPreferredLocation s.preferredLocation ++
      Layout.integer? TypeNumber.pdrmTimeSpent s.timeSpentAtPreferredLocation ++
      Layout.integer? TypeNumber.pdrmCurrentPosition s.currentPosition ++
      Layout.integer? TypeNumber.pdrmAvailability s.availability ++
      Layout.flag TypeNumber.pdrmInterest s.interest
  read children := do
    let kind := Kind.pdrmStrategySelectors
    let scope ← Lookup.integer? kind TypeNumber.pdrmScope children
    let nodeId ← Lookup.integer? kind TypeNumber.pdrmNodeId children
    let homeNetwork ← Lookup.integer? kind TypeNumber.pdrmHomeNetwork children
    let preferredLocation ← Lookup.integer? kind TypeNumber.pdrmPreferredLocation children
    let timeSpent ← Lookup.integer? kind TypeNumber.pdrmTimeSpent children
    let currentPosition ← Lookup.integer? kind TypeNumber.pdrmCurrentPosition children
    let availability ← Lookup.integer? kind TypeNumber.pdrmAvailability children
    return ⟨scope, nodeId, homeNetwork, preferredLocation, timeSpent, currentPosition,
      availability, Lookup.has TypeNumber.pdrmInterest children⟩

/-- A change to the selectors of the mobility strategy. -/
inductive Edit where
  | setScope (value : Option UInt64)
  | setNodeId (id : Option UInt64)
  | setHomeNetwork (value : Option UInt64)
  | setPreferredLocation (value : Option UInt64)
  | setTimeSpentAtPreferredLocation (value : Option UInt64)
  | setCurrentPosition (value : Option UInt64)
  | setAvailability (value : Option UInt64)
  | setInterest (on : Bool)
deriving DecidableEq, Repr

/-- The selectors after a change, which drops their encoding. -/
def Edit.apply : Edit → Cached PdrmStrategySelectors → Cached PdrmStrategySelectors
  | .setScope value, c => c.edit fun s => { s with scope := value }
  | .setNodeId id, c => c.edit fun s => { s with nodeId := id }
  | .setHomeNetwork value, c => c.edit fun s => { s with homeNetwork := value }
  | .setPreferredLocation value, c => c.edit fun s => { s with preferredLocation := value }
  | .setTimeSpentAtPreferredLocation value, c =>
    c.edit fun s => { s with timeSpentAtPreferredLocation := value }
  | .setCurrentPosition value, c => c.edit fun s => { s with currentPosition := value }
  | .setAvailability value, c => c.edit fun s => { s with availability := value }
  | .setInterest on, c => c.edit fun s => { s with interest := on }

instance : Editable PdrmStrategySelectors Edit := ⟨Edit.apply⟩

instance : Form PdrmStrategySelectors where
  members s :=
    [("scope", .orNull .word s.scope), ("node_id", .orNull .word s.nodeId),
      ("home_network", .orNull .word s.homeNetwork),
      ("preferred_location", .orNull .word s.preferredLocation),
      ("time_spent_at_preferred_location", .orNull .word s.timeSpentAtPreferredLocation),
      ("current_position", .orNull .word s.currentPosition),
      ("availability", .orNull .word s.availability), ("interest", .bool s.interest)]
  ofJson? j := do
    match ← j.fields? ["scope", "node_id", "home_network", "preferred_location",
      "time_spent_at_preferred_location", "current_position", "availability", "interest"] with
    | [scope, nodeId, homeNetwork, preferredLocation, timeSpent, currentPosition, availability,
        interest] =>
      return ⟨← Json.optional Json.word? scope, ← Json.optional Json.word? nodeId,
        ← Json.optional Json.word? homeNetwork, ← Json.optional Json.word? preferredLocation,
        ← Json.optional Json.word? timeSpent, ← Json.optional Json.word? currentPosition,
        ← Json.optional Json.word? availability, ← Json.required Json.bool? interest⟩
    | _ => none

end PdrmStrategySelectors

end NamedData
