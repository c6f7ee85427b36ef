/-
Building packets from a request.

* `EncodeRequest.build` — the packet that is asked for, with a nonce drawn for an announcement;
* `encodeOutput` — the bytes to be written: the encoding, or a line of hexadecimal digits.
-/
import NamedData.Packet

namespace NamedData.Inspect

/-- A packet that is asked for. What is not given takes the packet's default. -/
inductive EncodeRequest where
  | announcement (name : Name) (timeoutMillis : Option UInt64) (nonce : Option UInt32)
  | hint (name : Name) (scope nodeId : Option UInt64) (interested : Bool)
    (availability : Option UInt64)
  | vicinity (name : Name) (scope : Option UInt64)
  | vicinityData (name : Name) (nodeId : Option UInt64)
deriving DecidableEq, Repr

/-- A record after a list of changes. -/
def applyAll {α ε : Type} [Editable α ε] (c : Cached α) (changes : List ε) : Cached α :=
  changes.foldl (fun c change => Editable.apply change c) c

/-- The packet that is asked for; `draw` is the nonce that was drawn in case none is given. -/
def EncodeRequest.build (draw : UInt32) : EncodeRequest → Packet
  | .announcement name timeoutMillis nonce =>
    let timeout := timeoutMillis.map fun ms =>
      Announcement.Edit.setTimeout (Duration.ofMillis ms)
    .announcement <| Packet.holding <|
      applyAll { fields := Announcement.create name draw none }
        (timeout.toList ++ (nonce.map Announcement.Edit.setNonce).toList)
  | .hint name scope nodeId interested availability =>
    .hint <| Packet.holding <|
      applyAll { fields := { name := name } }
        ((scope.map Hint.Edit.setScope).toList ++
          [.inSelectors (.setNodeId nodeId), .inSelectors (.setInterested interested),
            .inSelectors (.setAvailability availability)])
  | .vicinity name scope =>
    .vicinity <| Packet.holding <|
      applyAll { fields := { name := name } } (scope.map Vicinity.Edit.setScope).toList
  | .vicinityData name nodeId =>
    .vicinityData <| Packet.holding <|
      applyAll { fields := { name := name } } [VicinityData.Edit.setNodeId nodeId]

/-- The bytes to be written for a packet. -/
def encodeOutput (hex : Bool) (p : Packet) : Bytes :=
  if hex then utf8 (Hex.text p.encoding.wire ++ "\n") else p.encoding.wire

end NamedData.Inspect
