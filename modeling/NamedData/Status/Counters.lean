/-
Traffic counters: how many packets of each sort came in and went out.

Both status records hold twelve counters, the six for arriving packets first.

* `layout` — the twelve elements in order;
* `read` — the twelve fields in the same order.
-/
import NamedData.Status.Reader

namespace NamedData

/-- Counts of packets of each sort, in one direction. -/
structure PacketCounts where
  interests : UInt64 := 0
  datas : UInt64 := 0
  announcements : UInt64 := 0
  hints : UInt64 := 0
  vicinities : UInt64 := 0
  vicinityDatas : UInt64 := 0
deriving DecidableEq, Repr

/-- Counts of packets of each sort in both directions. -/
structure TrafficCounters where
  /-- Packets received. -/
  incoming : PacketCounts := {}
  /-- Packets sent. -/
  outgoing : PacketCounts := {}
deriving DecidableEq, Repr

namespace PacketCounts

/-- The counts in order. -/
def toList (c : PacketCounts) : List UInt64 :=
  [c.interests, c.datas, c.announcements, c.hints, c.vicinities, c.vicinityDatas]

/-- The counts in a list, from its beginning; missing ones are zero. -/
def ofList (ns : List UInt64) : PacketCounts where
  interests := ns.getD 0 0
  datas := ns.getD 1 0
  announcements := ns.getD 2 0
  hints := ns.getD 3 0
  vicinities := ns.getD 4 0
  vicinityDatas := ns.getD 5 0

end PacketCounts

namespace TrafficCounters

/-- The counters in order. -/
def toList (c : TrafficCounters) : List UInt64 := c.incoming.toList ++ c.outgoing.toList

/-- The counters in a list, from its beginning; missing ones are zero. -/
def ofList (ns : List UInt64) : TrafficCounters :=
  ⟨PacketCounts.ofList (ns.take 6), PacketCounts.ofList (ns.drop 6)⟩

/-- The counters with one of them, counted from zero, replaced. -/
def set (c : TrafficCounters) (index : Nat) (n : UInt64) : TrafficCounters :=
  ofList (c.toList.set index n)

/-- What the elements of the counters are made of. -/
def layout (c : TrafficCounters) : List Layout :=
  [Layout.integer TypeNumber.inInterests c.incoming.interests,
    Layout.integer TypeNumber.inDatas c.incoming.datas,
    Layout.integer TypeNumber.inAnnouncements c.incoming.announcements,
    Layout.integer TypeNumber.inHints c.incoming.hints,
    Layout.integer TypeNumber.inVicinities c.incoming.vicinities,
    Layout.integer TypeNumber.inVicinityDatas c.incoming.vicinityDatas,
    Layout.integer TypeNumber.outInterests c.outgoing.interests,
    Layout.integer TypeNumber.outDatas c.outgoing.datas,
    Layout.integer TypeNumber.outAnnouncements c.outgoing.announcements,
    Layout.integer TypeNumber.outHints c.outgoing.hints,
    Layout.integer TypeNumber.outVicinities c.outgoing.vicinities,
    Layout.integer TypeNumber.outVicinityDatas c.outgoing.vicinityDatas]

/-- Reads the counters of a status record. -/
def read (kind : Kind) : FieldReader TrafficCounters := do
  let field := FieldReader.integer kind
  let inInterests ← field TypeNumber.inInterests "NInInterests"
  let inDatas ← field TypeNumber.inDatas "NInDatas"
  let inAnnouncements ← field TypeNumber.inAnnouncements "NInAnnouncements"
  let inHints ← field TypeNumber.inHints "NInHints"
  let inVicinities ← field TypeNumber.inVicinities "NInVicinities"
  let inVicinityDatas ← field TypeNumber.inVicinityDatas "NInVicinityDatas"
  let outInterests ← field TypeNumber.outInterests "NOutInterests"
  let outDatas ← field TypeNumber.outDatas "NOutDatas"
  let outAnnouncements ← field TypeNumber.outAnnouncements "NOutAnnouncements"
  let outHints ← field TypeNumber.outHints "NOutHints"
  let outVicinities ← field TypeNumber.outVicinities "NOutVicinities"
  let outVicinityDatas ← field TypeNumber.outVicinityDatas "NOutVicinityDatas"
  return ⟨⟨inInterests, inDatas, inAnnouncements, inHints, inVicinities, inVicinityDatas⟩,
    ⟨outInterests, outDatas, outAnnouncements, outHints, outVicinities, outVicinityDatas⟩⟩

/-- Two counts of a sort of packets, as a report shows them. -/
def row (sort : String) (received sent : UInt64) : String :=
  "  " ++ sort ++ ": \x7bin: " ++ Text.wordText received ++ ", out: " ++ Text.wordText sent ++
    "\x7d"

/-- The counters as a report shows them: six rows with commas and line feeds between them. -/
def text (c : TrafficCounters) : String :=
  ",\n".intercalate
    [row "Interests" c.incoming.interests c.outgoing.interests,
      row "Data" c.incoming.datas c.outgoing.datas,
      row "Announcement" c.incoming.announcements c.outgoing.announcements,
      row "Hint" c.incoming.hints c.outgoing.hints,
      row "Vicinity" c.incoming.vicinities c.outgoing.vicinities,
      row "VicinityData" c.incoming.vicinityDatas c.outgoing.vicinityDatas]

/-- The names of the counters in the JSON form. -/
def jsonNames : List String :=
  ["n_in_interests", "n_in_datas", "n_in_announcements", "n_in_hints", "n_in_vicinities",
    "n_in_vicinity_datas", "n_out_interests", "n_out_datas", "n_out_announcements", "n_out_hints",
    "n_out_vicinities", "n_out_vicinity_datas"]

/-- The JSON form of the counters. -/
def toJson (c : TrafficCounters) : Json := .object (jsonNames.zip (c.toList.map .word))

/-- The counters that a JSON value stands for. -/
def ofJson? (j : Json) : Option TrafficCounters := do
  let fields ← j.fields? jsonNames
  let counts ← fields.mapM (Json.required Json.word?)
  return ofList counts

end TrafficCounters

end NamedData
