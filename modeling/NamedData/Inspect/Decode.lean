/-
Decoding a dump: every element in it, one after another.

An element that decodes is printed, as text with its offset or as a line of JSON. One that does
not is reported and counted, and the others are not affected. A dump that cannot be read or cut
into elements gives nothing at all.

* `decodeElement` — what becomes of one element;
* `decodeDump` — what becomes of a dump.
-/
import NamedData.Inspect.Dump
import NamedData.Packet

namespace NamedData.Inspect

/-- How a dump is to be read. -/
structure DecodeSettings where
  /-- The schema that is accepted. -/
  schema : SchemaVersion := .current
  /-- Whether the dump is hexadecimal text. -/
  hex : Bool := false
deriving DecidableEq, Repr

/-- What came of decoding. -/
structure DecodeReport where
  /-- How many elements were decoded. -/
  decoded : Nat := 0
  /-- How many were not. -/
  failed : Nat := 0
  /-- What was printed. -/
  output : String := ""
  /-- What was reported. -/
  log : List LogEntry := []
deriving DecidableEq, Repr

namespace DecodeReport

/-- What came of two parts of a dump, the first before the second. -/
def append (a b : DecodeReport) : DecodeReport where
  decoded := a.decoded + b.decoded
  failed := a.failed + b.failed
  output := a.output ++ b.output
  log := a.log ++ b.log

end DecodeReport

/-- A packet as it is printed, with the line feed at its end. -/
def printed (json : Bool) (offset : Nat) (p : Packet) : String :=
  if json then p.jsonText ++ "\n"
  else "[" ++ Text.natText offset ++ "] " ++ p.text ++ "\n"

/-- The report on an element that is no packet. -/
def failureEntry (offset : Nat) (e : Element) (cause : PacketError) : LogEntry where
  level := .warning
  message := "Element at offset " ++ Text.natText offset ++ " (type " ++ Text.wordText e.type ++
    "): " ++ cause.message

/-- What becomes of one element. -/
def decodeElement (schema : SchemaVersion) (json : Bool) (offset : Nat) (e : Element) :
    DecodeReport :=
  match Packet.ofBlock schema (Block.ofElement e) with
  | .ok p => { decoded := 1, output := printed json offset p }
  | .error cause => { failed := 1, log := [failureEntry offset e cause] }

/-- What becomes of elements in order. -/
def decodeFrames (schema : SchemaVersion) (json : Bool) :
    List (Nat × Element) → DecodeReport
  | [] => {}
  | (offset, e) :: rest =>
    (decodeElement schema json offset e).append (decodeFrames schema json rest)

/-- The bytes of a dump as it was given. -/
def dumpBytes (hex : Bool) (data : Bytes) : Except DumpError Bytes :=
  if hex then Dump.ofHexText data else .ok data

/-- What becomes of a dump. -/
def decodeDump (settings : DecodeSettings) (json : Bool) (data : Bytes) :
    Except DumpError DecodeReport := do
  let bs ← dumpBytes settings.hex data
  let frames ← Dump.frames bs
  return decodeFrames settings.schema json frames

end NamedData.Inspect
