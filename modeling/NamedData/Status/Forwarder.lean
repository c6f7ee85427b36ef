/-
The status of a forwarder.

Its element holds a version, the times when the forwarder started and when the status was taken,
the sizes of five tables and the traffic counters, in this order.
-/
import NamedData.Status.Counters
import NamedData.Time.Rfc3339

namespace NamedData

/-- The status of a forwarder. -/
structure ForwarderStatus where
  /-- The version of the forwarder. -/
  version : String := ""
  /-- When it started. -/
  startTimestamp : Timestamp := .epoch
  /-- When the status was taken. -/
  currentTimestamp : Timestamp := .epoch
  /-- Entries of the name tree. -/
  nameTreeEntries : UInt64 := 0
  /-- Entries of the forwarding table. -/
  fibEntries : UInt64 := 0
  /-- Entries of the table of pending interests. -/
  pitEntries : UInt64 := 0
  /-- Entries of the table of measurements. -/
  measurementsEntries : UInt64 := 0
  /-- Entries of the content store. -/
  csEntries : UInt64 := 0
  /-- Packets received and sent. -/
  counters : TrafficCounters := {}
deriving DecidableEq, Repr

namespace ForwarderStatus

/-- Reads the fields of a forwarder's status. -/
def readFields : FieldReader ForwarderStatus := do
  let kind := Kind.forwarderStatus
  let version ← FieldReader.text kind TypeNumber.version "NfdVersion"
  let start ← FieldReader.timestamp kind TypeNumber.startTimestamp "StartTimestamp"
  let current ← FieldReader.timestamp kind TypeNumber.currentTimestamp "CurrentTimestamp"
  let nameTree ← FieldReader.integer kind TypeNumber.nameTreeEntries "NNameTreeEntries"
  let fib ← FieldReader.integer kind TypeNumber.fibEntries "NFibEntries"
  let pit ← FieldReader.integer kind TypeNumber.pitEntries "NPitEntries"
  let measurements ←
    FieldReader.integer kind TypeNumber.measurementsEntries "NMeasurementsEntries"
  let cs ← FieldReader.integer kind TypeNumber.csEntries "NCsEntries"
  let counters ← TrafficCounters.read kind
  return ⟨version, start, current, nameTree, fib, pit, measurements, cs, counters⟩

instance : Record ForwarderStatus where
  kind := .forwarderStatus
  expectedType := TypeNumber.content
  writtenType := TypeNumber.content
  initial := {}
  fields s :=
    [Layout.byteArray TypeNumber.version (utf8 s.version),
      Layout.integer TypeNumber.startTimestamp s.startTimestamp.wireMillis,
      Layout.integer TypeNumber.currentTimestamp s.currentTimestamp.wireMillis,
      Layout.integer TypeNumber.nameTreeEntries s.nameTreeEntries,
      Layout.integer TypeNumber.fibEntries s.fibEntries,
      Layout.integer TypeNumber.pitEntries s.pitEntries,
      Layout.integer TypeNumber.measurementsEntries s.measurementsEntries,
      Layout.integer TypeNumber.csEntries s.csEntries] ++
      s.counters.layout
  read children := (readFields children).map Prod.fst

/-- A change to the status of a forwarder. -/
inductive Edit where
  | setVersion (text : String)
  | setStartTimestamp (time : Timestamp)
  | setCurrentTimestamp (time : Timestamp)
  | setNameTreeEntries (n : UInt64)
  | setFibEntries (n : UInt64)
  | setPitEntries (n : UInt64)
  | setMeasurementsEntries (n : UInt64)
  | setCsEntries (n : UInt64)
  | setCounters (values : TrafficCounters)
  /-- Replaces one of the counters, counted from zero. -/
  | setCounter (index : Nat) (n : UInt64)
deriving DecidableEq, Repr

/-- The status after a change, which drops its encoding. -/
def Edit.apply : Edit → Cached ForwarderStatus → Cached ForwarderStatus
  | .setVersion text, c => c.edit fun s => { s with version := text }
  | .setStartTimestamp time, c => c.edit fun s => { s with startTimestamp := time }
  | .setCurrentTimestamp time, c => c.edit fun s => { s with currentTimestamp := time }
  | .setNameTreeEntries n, c => c.edit fun s => { s with nameTreeEntries := n }
  | .setFibEntries n, c => c.edit fun s => { s with fibEntries := n }
  | .setPitEntries n, c => c.edit fun s => { s with pitEntries := n }
  | .setMeasurementsEntries n, c => c.edit fun s => { s with measurementsEntries := n }
  | .setCsEntries n, c => c.edit fun s => { s with csEntries := n }
  | .setCounters values, c => c.edit fun s => { s with counters := values }
  | .setCounter index n, c => c.edit fun s => { s with counters := s.counters.set index n }

instance : Editable ForwarderStatus Edit := ⟨Edit.apply⟩

/-- A whole number with a minus sign when it is negative. -/
def intText (n : Int) : String :=
  if n < 0 then "-" ++ Text.natText n.natAbs else Text.natText n.toNat

/-- The report on a forwarder. -/
def text (s : ForwarderStatus) : String :=
  "ForwarderStatus(Version: " ++ s.version ++ ",\n" ++
    "StartTimestamp: " ++ Rfc3339.text s.startTimestamp ++ ",\n" ++
    "CurrentTimestamp: " ++ Rfc3339.text s.currentTimestamp ++ ",\n" ++
    "Uptime: " ++ intText (s.startTimestamp.wholeSecondsUntil s.currentTimestamp) ++ "s,\n" ++
    "Entries: \x7bNameTree: " ++ Text.wordText s.nameTreeEntries ++
    ", Fib: " ++ Text.wordText s.fibEntries ++ ", Pit: " ++ Text.wordText s.pitEntries ++
    ", Measurements: " ++ Text.wordText s.measurementsEntries ++
    ", Cs: " ++ Text.wordText s.csEntries ++ "\x7d,\n" ++
    "Counters: \x7b\n" ++ s.counters.text ++ " \x7d)\n"

/-- The point in time that a JSON value stands for. -/
def timestampOfJson? (j : Json) : Option Timestamp := do
  Rfc3339.parse? (← j.string?)

instance : Form ForwarderStatus where
  members s :=
    [("nfd_version", .string s.version),
      ("start_timestamp", .string (Rfc3339.textZulu s.startTimestamp)),
      ("current_timestamp", .string (Rfc3339.textZulu s.currentTimestamp)),
      ("n_name_tree_entries", .word s.nameTreeEntries), ("n_fib_entries", .word s.fibEntries),
      ("n_pit_entries", .word s.pitEntries),
      ("n_measurements_entries", .word s.measurementsEntries),
      ("n_cs_entries", .word s.csEntries), ("counters", s.counters.toJson)]
  ofJson? j := do
    match ← j.fields? ["nfd_version", "start_timestamp", "current_timestamp",
      "n_name_tree_entries", "n_fib_entries", "n_pit_entries", "n_measurements_entries",
      "n_cs_entries", "counters"] with
    | [version, start, current, nameTree, fib, pit, measurements, cs, counters] =>
      return ⟨← Json.required Json.string? version, ← Json.required timestampOfJson? start,
        ← Json.required timestampOfJson? current, ← Json.required Json.word? nameTree,
        ← Json.required Json.word? fib, ← Json.required Json.word? pit,
        ← Json.required Json.word? measurements, ← Json.required Json.word? cs,
        ← Json.required TrafficCounters.ofJson? counters⟩
    | _ => none
  text? s := some s.text

end ForwarderStatus

end NamedData
