/-
The kinds of records, and what goes wrong when one is decoded.

* `Kind.ofType?` — the kind that a type number announces, whatever the schema;
* `PacketError` — a decoding error, scoped to the kind of record where it arose.
-/
import NamedData.Error
import NamedData.TypeNumber

namespace NamedData

open Text

/-- A kind of record. -/
inductive Kind where
  | announcement
  | hint
  | legacyHint
  | vicinity
  | vicinityData
  | replicationSelectors
  | legacyReplicationSelectors
  | strategySelectors
  | pdrmStrategySelectors
  | faceStatus
  | forwarderStatus
deriving DecidableEq, Repr

namespace Kind

/-- Every kind. -/
def all : List Kind :=
  [.announcement, .hint, .legacyHint, .vicinity, .vicinityData, .replicationSelectors,
    .legacyReplicationSelectors, .strategySelectors, .pdrmStrategySelectors, .faceStatus,
    .forwarderStatus]

/-- The kind that a type number announces in the older schema, which has all of them. -/
def ofType? : UInt64 → Option Kind
  | TypeNumber.announcement => some .announcement
  | TypeNumber.hint => some .hint
  | TypeNumber.vicinity => some .vicinity
  | TypeNumber.vicinityData => some .vicinityData
  | TypeNumber.replicationSelectors => some .replicationSelectors
  | TypeNumber.strategySelectors => some .strategySelectors
  | TypeNumber.pdrmStrategySelectors => some .pdrmStrategySelectors
  | TypeNumber.faceStatus => some .faceStatus
  | TypeNumber.content => some .forwarderStatus
  | TypeNumber.legacyHint => some .legacyHint
  | TypeNumber.legacyReplicationSelectors => some .legacyReplicationSelectors
  | _ => none

/-- The kind in messages and reports. -/
def label : Kind → String
  | .announcement => "Announcement"
  | .hint => "Hint"
  | .legacyHint => "LegacyHint"
  | .vicinity => "Vicinity"
  | .vicinityData => "VicinityData"
  | .replicationSelectors => "ReplicationSelectors"
  | .legacyReplicationSelectors => "LegacyReplicationSelectors"
  | .strategySelectors => "StrategySelectors"
  | .pdrmStrategySelectors => "PDRMStrategySelectors"
  | .faceStatus => "FaceStatus"
  | .forwarderStatus => "ForwarderStatus"

/-- The kind as a JSON tag. -/
def tag : Kind → String
  | .pdrmStrategySelectors => "PdrmStrategySelectors"
  | kind => kind.label

end Kind

/-- What goes wrong when a record is decoded. -/
inductive PacketError where
  /-- The element has the type number of something else. -/
  | unexpectedType (kind : Kind) (expected actual : UInt64)
  /-- A field that has to be there is absent, or out of place in a status record. -/
  | missingField (kind : Kind) (field : String)
  /-- A field holds a value outside its range. -/
  | invalidValue (kind : Kind) (field : String) (value : UInt64)
  /-- An element inside the record is not well formed. -/
  | element (kind : Kind) (cause : TlvError)
  /-- No record has this type number, under the schema in use. -/
  | unknownType (type : UInt64)
  /-- The bytes are not one element, nor the beginning of one of a known kind. -/
  | malformed (cause : TlvError)
deriving DecidableEq, Repr

namespace PacketError

/-- The kind that the error is scoped to. -/
def kind? : PacketError → Option Kind
  | .unexpectedType kind _ _ => some kind
  | .missingField kind _ => some kind
  | .invalidValue kind _ _ => some kind
  | .element kind _ => some kind
  | .unknownType _ => none
  | .malformed _ => none

/-- The wording of the error. -/
def message : PacketError → String
  | .unexpectedType kind expected actual =>
    "Unexpected TLV number when decoding " ++ kind.label ++ ": expected " ++ wordText expected ++
      ", got " ++ wordText actual
  | .missingField kind field => kind.label ++ ": missing required " ++ field ++ " field"
  | .invalidValue kind field value =>
    kind.label ++ ": invalid " ++ field ++ " value " ++ wordText value
  | .element kind cause => kind.label ++ ": " ++ cause.message
  | .unknownType type => "Unknown top-level TLV number " ++ wordText type
  | .malformed cause => "Malformed TLV element: " ++ cause.message

end PacketError

end NamedData
