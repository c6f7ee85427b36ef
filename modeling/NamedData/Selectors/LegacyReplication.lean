/-
Replication selectors of the older schema: an exclude filter and the flag that only fresh data
will do, in this order, each only when set.
-/
import NamedData.Record.Form
import NamedData.Exclude

namespace NamedData

/-- The selectors that a hint of the older schema carries. -/
structure LegacyReplicationSelectors where
  /-- The components that the hint does not cover. -/
  exclude : Exclude := {}
  /-- Whether only fresh data will do. -/
  mustBeFresh : Bool := false
deriving DecidableEq, Repr

namespace LegacyReplicationSelectors

/-- Whether nothing is set. Empty selectors are left out of a hint. -/
def isEmpty (s : LegacyReplicationSelectors) : Bool := s.exclude.isEmpty && !s.mustBeFresh

/-- The filter in the first child that is one; the empty filter when there is none. -/
def readExclude (children : List Element) : Except PacketError Exclude :=
  match Lookup.first? TypeNumber.exclude children with
  | none => .ok {}
  | some e =>
    Lookup.inKind .legacyReplicationSelectors (Exclude.ofBlock (Block.ofElement e))

instance : Record LegacyReplicationSelectors where
  kind := .legacyReplicationSelectors
  expectedType := TypeNumber.legacyReplicationSelectors
  writtenType := TypeNumber.legacyReplicationSelectors
  initial := {}
  fields s :=
    (if s.exclude.isEmpty then [] else [s.exclude.layout]) ++
      Layout.flag TypeNumber.mustBeFresh s.mustBeFresh
  read children := do
    let exclude ← readExclude children
    return ⟨exclude, Lookup.has TypeNumber.mustBeFresh children⟩

/-- A change to replication selectors of the older schema. -/
inductive Edit where
  | setExclude (filter : Exclude)
  | setMustBeFresh (on : Bool)
deriving DecidableEq, Repr

/-- The selectors after a change, which drops their encoding. -/
def Edit.apply : Edit → Cached LegacyReplicationSelectors → Cached LegacyReplicationSelectors
  | .setExclude filter, c => c.edit fun s => { s with exclude := filter }
  | .setMustBeFresh on, c => c.edit fun s => { s with mustBeFresh := on }

instance : Editable LegacyReplicationSelectors Edit := ⟨Edit.apply⟩

instance : Form LegacyReplicationSelectors where
  members s := [("exclude", s.exclude.toJson), ("must_be_fresh", .bool s.mustBeFresh)]
  ofJson? j := do
    match ← j.fields? ["exclude", "must_be_fresh"] with
    | [exclude, mustBeFresh] =>
      return ⟨← Json.required Exclude.ofJson? exclude, ← Json.required Json.bool? mustBeFresh⟩
    | _ => none

end LegacyReplicationSelectors

end NamedData
