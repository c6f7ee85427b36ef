/-
Vicinity requests, which ask the nodes around for data under a name, and the answers to them.

A request has a scope, of which two is the default and is left out. An answer may carry the number
of the node that gives it.
-/
import NamedData.Record.Form
import NamedData.Name.Uri

namespace NamedData

/-- A request to the nodes around. -/
structure Vicinity where
  /-- The name that is asked for. -/
  name : Name := {}
  /-- How far the request is passed on. -/
  scope : UInt64 := 2
deriving DecidableEq, Repr

namespace Vicinity

/-- The scope that is left out. -/
def defaultScope : UInt64 := 2

instance : Record Vicinity where
  kind := .vicinity
  expectedType := TypeNumber.vicinity
  writtenType := TypeNumber.vicinity
  initial := {}
  fields v := [v.name.layout] ++ Layout.integerUnless TypeNumber.scope defaultScope v.scope
  read children := do
    let kind := Kind.vicinity
    let name ← Lookup.name kind children
    let scope ← Lookup.integer? kind TypeNumber.scope children
    return ⟨name, scope.getD defaultScope⟩

/-- A change to a request. -/
inductive Edit where
  | setName (name : Name)
  | setScope (scope : UInt64)
deriving DecidableEq, Repr

/-- The request after a change, which drops its encoding. -/
def Edit.apply : Edit → Cached Vicinity → Cached Vicinity
  | .setName name, c => c.edit fun v => { v with name := name }
  | .setScope scope, c => c.edit fun v => { v with scope := scope }

instance : Editable Vicinity Edit := ⟨Edit.apply⟩

instance : Form Vicinity where
  members v := [("name", v.name.toJson), ("scope", .word v.scope)]
  ofJson? j := do
    match ← j.fields? ["name", "scope"] with
    | [name, scope] => return ⟨← Json.required Name.ofJson? name, ← Json.required Json.word? scope⟩
    | _ => none
  text? v := some <|
    v.name.uri ++ parameters
      (if v.scope = defaultScope then [] else [("ndn.VicinityScope", Text.wordText v.scope)])
  name? v := some v.name
  matches? v name := some (v.name.isPrefixOf name)

end Vicinity

/-- An answer to a request to the nodes around. -/
structure VicinityData where
  /-- The name that was asked for. -/
  name : Name := {}
  /-- The number of the node that answers. -/
  nodeId : Option UInt64 := none
deriving DecidableEq, Repr

namespace VicinityData

instance : Record VicinityData where
  kind := .vicinityData
  expectedType := TypeNumber.vicinityData
  writtenType := TypeNumber.vicinityData
  initial := {}
  fields v := [v.name.layout] ++ Layout.integer? TypeNumber.nodeId v.nodeId
  read children := do
    let kind := Kind.vicinityData
    let name ← Lookup.name kind children
    let nodeId ← Lookup.integer? kind TypeNumber.nodeId children
    return ⟨name, nodeId⟩

/-- A change to an answer. -/
inductive Edit where
  | setName (name : Name)
  | setNodeId (id : Option UInt64)
deriving DecidableEq, Repr

/-- The answer after a change, which drops its encoding. -/
def Edit.apply : Edit → Cached VicinityData → Cached VicinityData
  | .setName name, c => c.edit fun v => { v with name := name }
  | .setNodeId id, c => c.edit fun v => { v with nodeId := id }

instance : Editable VicinityData Edit := ⟨Edit.apply⟩

instance : Form VicinityData where
  members v := [("name", v.name.toJson), ("node_id", .orNull .word v.nodeId)]
  ofJson? j := do
    match ← j.fields? ["name", "node_id"] with
    | [name, nodeId] =>
      return ⟨← Json.required Name.ofJson? name, ← Json.optional Json.word? nodeId⟩
    | _ => none
  text? v := some <|
    v.name.uri ++ parameters
      (match v.nodeId with
        | some id => [("ndn.VicinityDataNodeID", Text.wordText id)]
        | none => [])
  name? v := some v.name
  matches? v name := some (v.name.isPrefixOf name)

end VicinityData

end NamedData
