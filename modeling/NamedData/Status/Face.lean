/-
The status of a face, one of the links of a forwarder.

Its element holds a number, two addresses, the time until the face expires if it does, three
properties of the face, the traffic counters and the bytes received and sent, in this order.
-/
import NamedData.Status.Counters
import NamedData.Time.Duration

namespace NamedData

/-- Whether a face leads to the host itself. -/
inductive FaceScope where
  | nonLocal
  | local
deriving DecidableEq, Repr

namespace FaceScope

/-- The scope as a number. -/
def toWord : FaceScope → UInt64
  | .nonLocal => 0
  | .local => 1

/-- The scope that a number stands for. -/
def ofWord? (n : UInt64) : Option FaceScope :=
  if n = 0 then some .nonLocal else if n = 1 then some .local else none

/-- The scope in a report. -/
def text : FaceScope → String
  | .nonLocal => "non-local"
  | .local => "local"

/-- The scope as a JSON tag. -/
def tag : FaceScope → String
  | .nonLocal => "NonLocal"
  | .local => "Local"

/-- The scope that a JSON value stands for. -/
def ofJson? : Json → Option FaceScope :=
  Json.unit? ([.nonLocal, .local].map fun v => (v.tag, v))

end FaceScope

/-- How long a face lasts. -/
inductive FacePersistency where
  | persistent
  | onDemand
  | permanent
deriving DecidableEq, Repr

namespace FacePersistency

/-- The persistency as a number. -/
def toWord : FacePersistency → UInt64
  | .persistent => 0
  | .onDemand => 1
  | .permanent => 2

/-- The persistency that a number stands for. -/
def ofWord? (n : UInt64) : Option FacePersistency :=
  if n = 0 then some .persistent
  else if n = 1 then some .onDemand
  else if n = 2 then some .permanent
  else none

/-- The persistency in a report. -/
def text : FacePersistency → String
  | .persistent => "persistent"
  | .onDemand => "on-demand"
  | .permanent => "permanent"

/-- The persistency as a JSON tag. -/
def tag : FacePersistency → String
  | .persistent => "Persistent"
  | .onDemand => "OnDemand"
  | .permanent => "Permanent"

/-- The persistency that a JSON value stands for. -/
def ofJson? : Json → Option FacePersistency :=
  Json.unit? ([.persistent, .onDemand, .permanent].map fun v => (v.tag, v))

end FacePersistency

/-- Whether a link has one peer or several. -/
inductive LinkType where
  | pointToPoint
  | multiAccess
deriving DecidableEq, Repr

namespace LinkType

/-- The type of link as a number. -/
def toWord : LinkType → UInt64
  | .pointToPoint => 0
  | .multiAccess => 1

/-- The type of link that a number stands for. -/
def ofWord? (n : UInt64) : Option LinkType :=
  if n = 0 then some .pointToPoint else if n = 1 then some .multiAccess else none

/-- The type of link in a report. -/
def text : LinkType → String
  | .pointToPoint => "point-to-point"
  | .multiAccess => "multi-access"

/-- The type of link as a JSON tag. -/
def tag : LinkType → String
  | .pointToPoint => "PointToPoint"
  | .multiAccess => "MultiAccess"

/-- The type of link that a JSON value stands for. -/
def ofJson? : Json → Option LinkType :=
  Json.unit? ([.pointToPoint, .multiAccess].map fun v => (v.tag, v))

end LinkType

/-- The status of a face. -/
structure FaceStatus where
  /-- The number of the face. -/
  faceId : UInt64 := 0
  /-- The address at the other end. -/
  remoteUri : String := ""
  /-- The address at this end. -/
  localUri : String := ""
  /-- The time until the face expires; absent when it does not. -/
  expirationPeriod : Option Duration := none
  /-- Whether the face leads to the host itself. -/
  scope : FaceScope := .nonLocal
  /-- How long the face lasts. -/
  persistency : FacePersistency := .persistent
  /-- Whether the link has one peer or several. -/
  linkType : LinkType := .pointToPoint
  /-- Packets received and sent. -/
  counters : TrafficCounters := {}
  /-- Bytes received. -/
  inBytes : UInt64 := 0
  /-- Bytes sent. -/
  outBytes : UInt64 := 0
deriving DecidableEq, Repr

namespace FaceStatus

/-- Reads the fields of a face's status. -/
def readFields : FieldReader FaceStatus := do
  let kind := Kind.faceStatus
  let faceId ← FieldReader.integer kind TypeNumber.faceId "FaceId"
  let remoteUri ← FieldReader.text kind TypeNumber.uri "Uri"
  let localUri ← FieldReader.text kind TypeNumber.localUri "LocalUri"
  let expirationPeriod ← FieldReader.optionalInteger kind TypeNumber.expirationPeriod
  let scope ← FieldReader.choice kind TypeNumber.faceScope "FaceScope" FaceScope.ofWord?
  let persistency ←
    FieldReader.choice kind TypeNumber.facePersistency "FacePersistency" FacePersistency.ofWord?
  let linkType ← FieldReader.choice kind TypeNumber.linkType "LinkType" LinkType.ofWord?
  let counters ← TrafficCounters.read kind
  let inBytes ← FieldReader.integer kind TypeNumber.inBytes "NInBytes"
  let outBytes ← FieldReader.integer kind TypeNumber.outBytes "NOutBytes"
  return ⟨faceId, remoteUri, localUri, expirationPeriod.map Duration.ofMillis, scope, persistency,
    linkType, counters, inBytes, outBytes⟩

instance : Record FaceStatus where
  kind := .faceStatus
  expectedType := TypeNumber.faceStatus
  writtenType := TypeNumber.faceStatus
  initial := {}
  fields s :=
    [Layout.integer TypeNumber.faceId s.faceId,
      Layout.byteArray TypeNumber.uri (utf8 s.remoteUri),
      Layout.byteArray TypeNumber.localUri (utf8 s.localUri)] ++
      Layout.integer? TypeNumber.expirationPeriod (s.expirationPeriod.map Duration.wireMillis) ++
      [Layout.integer TypeNumber.faceScope s.scope.toWord,
        Layout.integer TypeNumber.facePersistency s.persistency.toWord,
        Layout.integer TypeNumber.linkType s.linkType.toWord] ++
      s.counters.layout ++
      [Layout.integer TypeNumber.inBytes s.inBytes, Layout.integer TypeNumber.outBytes s.outBytes]
  read children := (readFields children).map Prod.fst

/-- A change to the status of a face. -/
inductive Edit where
  | setFaceId (n : UInt64)
  | setRemoteUri (text : String)
  | setLocalUri (text : String)
  | setExpirationPeriod (period : Option Duration)
  | setScope (value : FaceScope)
  | setPersistency (value : FacePersistency)
  | setLinkType (value : LinkType)
  | setCounters (values : TrafficCounters)
  /-- Replaces one of the counters, counted from zero. -/
  | setCounter (index : Nat) (n : UInt64)
  | setInBytes (n : UInt64)
  | setOutBytes (n : UInt64)
deriving DecidableEq, Repr

/-- The status after a change, which drops its encoding. -/
def Edit.apply : Edit → Cached FaceStatus → Cached FaceStatus
  | .setFaceId n, c => c.edit fun s => { s with faceId := n }
  | .setRemoteUri text, c => c.edit fun s => { s with remoteUri := text }
  | .setLocalUri text, c => c.edit fun s => { s with localUri := text }
  | .setExpirationPeriod period, c => c.edit fun s => { s with expirationPeriod := period }
  | .setScope value, c => c.edit fun s => { s with scope := value }
  | .setPersistency value, c => c.edit fun s => { s with persistency := value }
  | .setLinkType value, c => c.edit fun s => { s with linkType := value }
  | .setCounters values, c => c.edit fun s => { s with counters := values }
  | .setCounter index n, c => c.edit fun s => { s with counters := s.counters.set index n }
  | .setInBytes n, c => c.edit fun s => { s with inBytes := n }
  | .setOutBytes n, c => c.edit fun s => { s with outBytes := n }

instance : Editable FaceStatus Edit := ⟨Edit.apply⟩

/-- The report on a face. -/
def text (s : FaceStatus) : String :=
  "FaceStatus(FaceID: " ++ Text.wordText s.faceId ++ ",\n" ++
    "RemoteUri: " ++ s.remoteUri ++ ",\n" ++
    "LocalUri: " ++ s.localUri ++ ",\n" ++
    "ExpirationPeriod: " ++
    (match s.expirationPeriod with
      | some period => Text.natText period.millis ++ "ms"
      | none => "infinite") ++ ",\n" ++
    "FaceScope: " ++ s.scope.text ++ ",\n" ++
    "FacePersistency: " ++ s.persistency.text ++ ",\n" ++
    "LinkType: " ++ s.linkType.text ++ ",\n" ++
    "Counters: \x7b\n" ++ s.counters.text ++ ",\n" ++
    "  bytes: \x7bin: " ++ Text.wordText s.inBytes ++ ", out: " ++ Text.wordText s.outBytes ++
    "\x7d \x7d)\n"

instance : Form FaceStatus where
  members s :=
    [("face_id", .word s.faceId), ("remote_uri", .string s.remoteUri),
      ("local_uri", .string s.localUri),
      ("expiration_period", .orNull Duration.toJson s.expirationPeriod),
      ("face_scope", .string s.scope.tag), ("face_persistency", .string s.persistency.tag),
      ("link_type", .string s.linkType.tag), ("counters", s.counters.toJson),
      ("n_in_bytes", .word s.inBytes), ("n_out_bytes", .word s.outBytes)]
  ofJson? j := do
    match ← j.fields? ["face_id", "remote_uri", "local_uri", "expiration_period", "face_scope",
      "face_persistency", "link_type", "counters", "n_in_bytes", "n_out_bytes"] with
    | [faceId, remoteUri, localUri, period, scope, persistency, linkType, counters, inBytes,
        outBytes] =>
      return ⟨← Json.required Json.word? faceId, ← Json.required Json.string? remoteUri,
        ← Json.required Json.string? localUri, ← Json.optional Duration.ofJson? period,
        ← Json.required FaceScope.ofJson? scope,
        ← Json.required FacePersistency.ofJson? persistency,
        ← Json.required LinkType.ofJson? linkType,
        ← Json.required TrafficCounters.ofJson? counters,
        ← Json.required Json.word? inBytes, ← Json.required Json.word? outBytes⟩
    | _ => none
  text? s := some s.text

end FaceStatus

end NamedData
