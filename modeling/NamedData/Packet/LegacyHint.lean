/-
Hints of the older schema: a name, a size, a scope and selectors with an exclude filter.

The size is always written; the scope and the selectors are left out as in a hint of the current
schema. Such a hint does not match a name whose next component its filter takes out.
-/
import NamedData.Selectors.LegacyReplication
import NamedData.Packet.Hint

namespace NamedData

/-- A hint of the older schema. -/
structure LegacyHint where
  /-- The name of the data. -/
  name : Name := {}
  /-- Its size. -/
  size : UInt64 := 0
  /-- How far the hint is passed on. -/
  scope : UInt64 := defaultHintScope
  /-- What it does not cover, and whether only fresh data will do. -/
  selectors : Cached LegacyReplicationSelectors := { fields := {} }
deriving Repr

namespace LegacyHint

/-- Whether the hint has selectors with anything set. -/
def hasSelectors (h : LegacyHint) : Bool := !h.selectors.fields.isEmpty

/-- The hint's exclude filter. -/
def exclude (h : LegacyHint) : Exclude := h.selectors.fields.exclude

/-- Whether only fresh data will do. -/
def mustBeFresh (h : LegacyHint) : Bool := h.selectors.fields.mustBeFresh

/-- Whether the hint covers a name: one that extends its own, and whose next component the filter
does not take out. -/
def matchesName (h : LegacyHint) (name : Name) : Bool :=
  h.name.isPrefixOf name &&
    match name.get? h.name.length with
    | some next => !h.exclude.excludes next
    | none => true

/-- The encoding of the selectors, and the hint whose selectors keep it. -/
def encodeSelectors (h : LegacyHint) : Block × LegacyHint :=
  let (wire, selectors) := h.selectors.encode
  (wire, { h with selectors := selectors })

/-- The size in the first child that is one; there has to be one. -/
def readSize (children : List Element) : Except PacketError UInt64 :=
  match Lookup.first? TypeNumber.size children with
  | none => .error (.missingField .legacyHint "Size")
  | some e => Lookup.inKind .legacyHint (NonNegativeInteger.decode e.value)

/-- The selectors in the first child that is one; none set when there is none. -/
def readSelectors (children : List Element) :
    Except PacketError (Cached LegacyReplicationSelectors) :=
  match Lookup.first? TypeNumber.legacyReplicationSelectors children with
  | none => .ok { fields := {} }
  | some e => Cached.ofBlock (Block.ofElement e)

instance : Record LegacyHint where
  kind := .legacyHint
  expectedType := TypeNumber.legacyHint
  writtenType := TypeNumber.legacyHint
  initial := {}
  fields h :=
    [h.name.layout, Layout.integer TypeNumber.size h.size] ++
      Layout.integerUnless TypeNumber.hintScope defaultHintScope h.scope ++
      (if h.hasSelectors then [Layout.encoded h.selectors.encoding.wire] else [])
  read children := do
    let kind := Kind.legacyHint
    let name ← Lookup.name kind children
    let size ← readSize children
    let scope ← Lookup.integer? kind TypeNumber.hintScope children
    let selectors ← readSelectors children
    return ⟨name, size, scope.getD defaultHintScope, selectors⟩
  settle h := if h.hasSelectors then h.encodeSelectors.2 else h
  encodeNested? h := some h.encodeSelectors

/-- A change to a hint of the older schema. -/
inductive Edit where
  | setName (name : Name)
  | setSize (size : UInt64)
  | setScope (scope : UInt64)
  | setSelectors (selectors : Cached LegacyReplicationSelectors)
  /-- A change to the selectors that the hint has. -/
  | inSelectors (edit : LegacyReplicationSelectors.Edit)
deriving Repr

/-- The hint after a change, which drops its encoding. -/
def Edit.apply : Edit → Cached LegacyHint → Cached LegacyHint
  | .setName name, c => c.edit fun h => { h with name := name }
  | .setSize size, c => c.edit fun h => { h with size := size }
  | .setScope scope, c => c.edit fun h => { h with scope := scope }
  | .setSelectors selectors, c => c.edit fun h => { h with selectors := selectors }
  | .inSelectors edit, c => c.edit fun h => { h with selectors := edit.apply h.selectors }

instance : Editable LegacyHint Edit := ⟨Edit.apply⟩

instance : Form LegacyHint where
  members h :=
    [("name", h.name.toJson), ("size", .word h.size), ("scope", .word h.scope),
      ("selectors", Form.toJson h.selectors.fields)]
  ofJson? j := do
    match ← j.fields? ["name", "size", "scope", "selectors"] with
    | [name, size, scope, selectors] =>
      let selectors ← Json.required Form.ofJson? selectors
      return ⟨← Json.required Name.ofJson? name, ← Json.required Json.word? size,
        ← Json.required Json.word? scope, { fields := selectors }⟩
    | _ => none
  text? h := some <|
    h.name.uri ++ parameters
      ((if h.scope = defaultHintScope then [] else [("ndn.HintScope", Text.wordText h.scope)]) ++
      (if h.mustBeFresh then [("ndn.MustBeFresh", "1")] else []) ++
      (if h.exclude.isEmpty then [] else [("ndn.Exclude", h.exclude.uri)]))
  name? h := some h.name
  matches? h name := some (h.matchesName name)

end LegacyHint

end NamedData
