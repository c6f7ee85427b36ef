/-
Hints: a name, a scope and replication selectors.

A scope of two is the default and is left out, and so are selectors with nothing set. The
selectors keep an encoding of their own, and a hint's encoding holds that encoding as it is.
-/
import NamedData.Selectors.Replication
import NamedData.Name.Uri

namespace NamedData

/-- The scope of a hint that is left out, in both schemas. -/
def defaultHintScope : UInt64 := 2

/-- A hint where data can be found. -/
structure Hint where
  /-- The name of the data. -/
  name : Name := {}
  /-- How far the hint is passed on. -/
  scope : UInt64 := defaultHintScope
  /-- Which nodes it is meant for. -/
  selectors : Cached ReplicationSelectors := { fields := {} }
deriving Repr

namespace Hint

/-- Whether the hint has selectors with anything set. -/
def hasSelectors (h : Hint) : Bool := !h.selectors.fields.isEmpty

/-- The encoding of the selectors, and the hint whose selectors keep it. -/
def encodeSelectors (h : Hint) : Block × Hint :=
  let (wire, selectors) := h.selectors.encode
  (wire, { h with selectors := selectors })

/-- The selectors in the first child that is one; none set when there is none. -/
def readSelectors (children : List Element) :
    Except PacketError (Cached ReplicationSelectors) :=
  match Lookup.first? TypeNumber.replicationSelectors children with
  | none => .ok { fields := {} }
  | some e => Cached.ofBlock (Block.ofElement e)

instance : Record Hint where
  kind := .hint
  expectedType := TypeNumber.hint
  writtenType := TypeNumber.hint
  initial := {}
  fields h :=
    [h.name.layout] ++
      Layout.integerUnless TypeNumber.hintScope defaultHintScope h.scope ++
      (if h.hasSelectors then [Layout.encoded h.selectors.encoding.wire] else [])
  read children := do
    let kind := Kind.hint
    let name ← Lookup.name kind children
    let scope ← Lookup.integer? kind TypeNumber.hintScope children
    let selectors ← readSelectors children
    return ⟨name, scope.getD defaultHintScope, selectors⟩
  settle h := if h.hasSelectors then h.encodeSelectors.2 else h
  encodeNested? h := some h.encodeSelectors

/-- A change to a hint. -/
inductive Edit where
  | setName (name : Name)
  | setScope (scope : UInt64)
  | setSelectors (selectors : Cached ReplicationSelectors)
  /-- A change to the selectors that the hint has. -/
  | inSelectors (edit : ReplicationSelectors.Edit)
deriving Repr

/-- The hint after a change, which drops its encoding. -/
def Edit.apply : Edit → Cached Hint → Cached Hint
  | .setName name, c => c.edit fun h => { h with name := name }
  | .setScope scope, c => c.edit fun h => { h with scope := scope }
  | .setSelectors selectors, c => c.edit fun h => { h with selectors := selectors }
  | .inSelectors edit, c => c.edit fun h => { h with selectors := edit.apply h.selectors }

instance : Editable Hint Edit := ⟨Edit.apply⟩

instance : Form Hint where
  members h :=
    [("name", h.name.toJson), ("scope", .word h.scope),
      ("selectors", Form.toJson h.selectors.fields)]
  ofJson? j := do
    match ← j.fields? ["name", "scope", "selectors"] with
    | [name, scope, selectors] =>
      let selectors ← Json.required Form.ofJson? selectors
      return ⟨← Json.required Name.ofJson? name, ← Json.required Json.word? scope,
        { fields := selectors }⟩
    | _ => none
  text? h := some <|
    h.name.uri ++ parameters
      (if h.scope = defaultHintScope then [] else [("ndn.HintScope", Text.wordText h.scope)])
  name? h := some h.name
  matches? h name := some (h.name.isPrefixOf name)

end Hint

end NamedData
