/-
The tables of type numbers agree.

Which type number belongs to which kind is written down in many places: in the dispatch that decodes
a packet, in the look-up of the kind that a number announces, and for each kind once where its
decoder says what it expects and once where its encoder writes it.  Nothing but the registry is
shared between them.  `Kind.type` is the number that all of them mean.

* `Kind.ofType?_eq_some_iff` — the kind that a number announces is the one that has it;
* `Packet.kindUnder?_eq_some_iff` — a schema decodes by a number the kind that has it, if it knows
  that kind;
* `Record.LawfulNumbers` — what a kind's decoder expects and what its encoder writes is its number;
* `Packet.kindUnder_legacy` — so the dispatch of the older schema is the look-up.
-/
import NamedData.Packet

namespace NamedData

variable {t : UInt64} {k : Kind}

namespace Kind

/-- The type number of a kind's element. -/
def type : Kind → UInt64
  | announcement => 200
  | hint => 201
  | legacyHint => 207
  | vicinity => 202
  | vicinityData => 203
  | replicationSelectors => 204
  | legacyReplicationSelectors => 208
  | strategySelectors => 205
  | pdrmStrategySelectors => 206
  | faceStatus => 128
  | forwarderStatus => 21

/-- Whether the kind belongs to the older schema alone. -/
def isLegacy : Kind → Bool
  | legacyHint => true
  | legacyReplicationSelectors => true
  | _ => false

theorem ofType_type (k : Kind) : ofType? k.type = some k := by cases k <;> rfl

theorem type_of_ofType (h : ofType? t = some k) : k.type = t := by
  unfold ofType? at h
  -- one case for each number of the look-up, and one for all that it does not list
  split at h <;> cases h <;> rfl

/-- The kind that a number announces is the one that has it. -/
theorem ofType?_eq_some_iff : ofType? t = some k ↔ t = k.type := by
  constructor
  · intro h
    exact (type_of_ofType h).symm
  · rintro rfl
    exact k.ofType_type

end Kind

/-! ### The dispatch -/

namespace Packet

variable {schema : SchemaVersion}

theorem kindUnder_type (k : Kind) (schema : SchemaVersion) :
    kindUnder? schema k.type = if k.isLegacy = true → schema = .legacy then some k else none := by
  cases k <;> cases schema <;> rfl

theorem type_of_kindUnder (h : kindUnder? schema t = some k) : t = k.type := by
  unfold kindUnder? at h
  split at h
  -- the two numbers of the older schema are the ones with a condition
  case h_10 | h_11 =>
    split at h <;> cases h
    rfl
  all_goals cases h <;> rfl

/-- A schema decodes by a number the kind that has it, if it knows that kind. -/
theorem kindUnder?_eq_some_iff :
    kindUnder? schema t = some k ↔ t = k.type ∧ (k.isLegacy = true → schema = .legacy) := by
  constructor
  · intro h
    obtain rfl := type_of_kindUnder h
    rw [kindUnder_type] at h
    exact ⟨rfl, (Option.ite_none_right_eq_some.mp h).1⟩
  · rintro ⟨rfl, known⟩
    rw [kindUnder_type, if_pos known]

/-- A schema decodes by a number what the number announces, unless it does not know that. -/
theorem kindUnder?_eq_filter (schema : SchemaVersion) (t : UInt64) :
    kindUnder? schema t =
      (Kind.ofType? t).filter fun k => decide (k.isLegacy = true → schema = .legacy) := by
  ext k
  rw [kindUnder?_eq_some_iff, Option.filter_eq_some_iff, Kind.ofType?_eq_some_iff,
    decide_eq_true_iff]

theorem kindUnder_legacy (t : UInt64) : kindUnder? .legacy t = Kind.ofType? t := by
  rw [kindUnder?_eq_filter]
  cases Kind.ofType? t with
  | none => rfl
  | some k => simp

theorem kindUnder_current (t : UInt64) :
    kindUnder? .current t = if t = 207 ∨ t = 208 then none else Kind.ofType? t := by
  rw [kindUnder?_eq_filter]
  cases h : Kind.ofType? t with
  | none => simp
  | some k =>
    obtain rfl := Kind.type_of_ofType h
    cases k <;> rfl

end Packet

/-! ### Decoders and encoders -/

/-- A kind of record that is decoded and encoded with the number of its kind. -/
class Record.LawfulNumbers (α : Type) [Record α] : Prop where
  expected_eq : expectedType α = (kind α).type := by rfl
  written_eq : writtenType α = (kind α).type := by rfl

instance : Record.LawfulNumbers Announcement where
instance : Record.LawfulNumbers Hint where
instance : Record.LawfulNumbers LegacyHint where
instance : Record.LawfulNumbers Vicinity where
instance : Record.LawfulNumbers VicinityData where
instance : Record.LawfulNumbers ReplicationSelectors where
instance : Record.LawfulNumbers LegacyReplicationSelectors where
instance : Record.LawfulNumbers StrategySelectors where
instance : Record.LawfulNumbers PdrmStrategySelectors where
instance : Record.LawfulNumbers FaceStatus where
instance : Record.LawfulNumbers ForwarderStatus where

end NamedData
