/-
The four kinds of selectors are lawful records.

A field is written in its place when it is set, and read from the first child of its type.  No two
fields of a kind share a type, so each reads back from the children that all of them are written
to, and a change to one leaves the record as sound as it was.
-/
import NamedData.Proofs.Sound

namespace NamedData

/-! ### Selectors of the current schema -/

namespace ReplicationSelectors

instance : Invariant ReplicationSelectors where

theorem read_children (s : ReplicationSelectors) : Record.read (Record.children s) = .ok s := by
  have nodeId (kind : Kind) :
      Lookup.integer? kind TypeNumber.nodeId (Record.children s) = .ok s.nodeId := by
    apply Lookup.integer?_of_first?
    simp +decide [Record.children, Record.fields]
  have interested : Lookup.has TypeNumber.interested (Record.children s) = s.interested := by
    apply Lookup.has_of_first?
    simp +decide [Record.children, Record.fields]
  have availability (kind : Kind) :
      Lookup.integer? kind TypeNumber.availability (Record.children s) = .ok s.availability := by
    apply Lookup.integer?_of_first?
    simp +decide [Record.children, Record.fields]
  simp only [Record.read, nodeId, interested, availability, ok_bind]
  rfl

instance : LawfulRecord ReplicationSelectors Edit where
  valid_constructed _ := trivial
  valid_read _ _ := trivial
  onWire_read _ := rfl
  areFields _ := by simp [Record.fields]
  read_children {_ s} _ _ _ := ⟨s, s.read_children, rfl, rfl⟩
  sound_apply {_ change _} _ _ := by
    cases change <;> exact Cached.sound_of_unencoded trivial rfl

end ReplicationSelectors

namespace StrategySelectors

instance : Invariant StrategySelectors where

theorem read_children (s : StrategySelectors) : Record.read (Record.children s) = .ok s := by
  have scope (kind : Kind) :
      Lookup.integer? kind TypeNumber.scope (Record.children s) = .ok s.scope := by
    apply Lookup.integer?_of_first?
    simp +decide [Record.children, Record.fields]
  have nodeId (kind : Kind) :
      Lookup.integer? kind TypeNumber.nodeId (Record.children s) = .ok s.nodeId := by
    apply Lookup.integer?_of_first?
    simp +decide [Record.children, Record.fields]
  have interested : Lookup.has TypeNumber.interested (Record.children s) = s.interested := by
    apply Lookup.has_of_first?
    simp +decide [Record.children, Record.fields]
  have availability (kind : Kind) :
      Lookup.integer? kind TypeNumber.availability (Record.children s) = .ok s.availability := by
    apply Lookup.integer?_of_first?
    simp +decide [Record.children, Record.fields]
  simp only [Record.read, scope, nodeId, interested, availability, ok_bind]
  rfl

instance : LawfulRecord StrategySelectors Edit where
  valid_constructed _ := trivial
  valid_read _ _ := trivial
  onWire_read _ := rfl
  areFields _ := by simp [Record.fields]
  read_children {_ s} _ _ _ := ⟨s, s.read_children, rfl, rfl⟩
  sound_apply {_ change _} _ _ := by
    cases change <;> exact Cached.sound_of_unencoded trivial rfl

end StrategySelectors

namespace PdrmStrategySelectors

instance : Invariant PdrmStrategySelectors where

theorem read_children (s : PdrmStrategySelectors) : Record.read (Record.children s) = .ok s := by
  -- what is asked for, and of which of the seven numbers
  have number (kind : Kind) (type : UInt64) (n : Option UInt64)
      (h : Lookup.first? type (Record.children s) =
        n.map fun n => .make type (NonNegativeInteger.encode n)) :
      Lookup.integer? kind type (Record.children s) = .ok n := Lookup.integer?_of_first? h
  have scope (kind : Kind) := number kind TypeNumber.pdrmScope s.scope <| by
    simp +decide [Record.children, Record.fields]
  have nodeId (kind : Kind) := number kind TypeNumber.pdrmNodeId s.nodeId <| by
    simp +decide [Record.children, Record.fields]
  have homeNetwork (kind : Kind) := number kind TypeNumber.pdrmHomeNetwork s.homeNetwork <| by
    simp +decide [Record.children, Record.fields]
  have preferredLocation (kind : Kind) :=
    number kind TypeNumber.pdrmPreferredLocation s.preferredLocation <| by
      simp +decide [Record.children, Record.fields]
  have timeSpent (kind : Kind) :=
    number kind TypeNumber.pdrmTimeSpent s.timeSpentAtPreferredLocation <| by
      simp +decide [Record.children, Record.fields]
  have currentPosition (kind : Kind) :=
    number kind TypeNumber.pdrmCurrentPosition s.currentPosition <| by
      simp +decide [Record.children, Record.fields]
  have availability (kind : Kind) := number kind TypeNumber.pdrmAvailability s.availability <| by
    simp +decide [Record.children, Record.fields]
  have interest : Lookup.has TypeNumber.pdrmInterest (Record.children s) = s.interest := by
    apply Lookup.has_of_first?
    simp +decide [Record.children, Record.fields]
  simp only [Record.read, scope, nodeId, homeNetwork, preferredLocation, timeSpent,
    currentPosition, availability, interest, ok_bind]
  rfl

instance : LawfulRecord PdrmStrategySelectors Edit where
  valid_constructed _ := trivial
  valid_read _ _ := trivial
  onWire_read _ := rfl
  areFields _ := by simp [Record.fields]
  read_children {_ s} _ _ _ := ⟨s, s.read_children, rfl, rfl⟩
  sound_apply {_ change _} _ _ := by
    cases change <;> exact Cached.sound_of_unencoded trivial rfl

end PdrmStrategySelectors

/-! ### Selectors of the older schema -/

namespace LegacyReplicationSelectors

/-- The filter has no two open ranges in a row. -/
instance : Invariant LegacyReplicationSelectors where
  Valid _ s := Exclude.Spaced none s.exclude.entries

theorem first?_exclude (s : LegacyReplicationSelectors) :
    Lookup.first? TypeNumber.exclude (Record.children s) =
      if s.exclude.isEmpty then none else some s.exclude.layout.element := by
  by_cases h : s.exclude.isEmpty = true
  · simp +decide [Record.children, Record.fields, h]
  · simp +decide [Record.children, Record.fields, h]

theorem readExclude_children {s : LegacyReplicationSelectors}
    (spaced : Exclude.Spaced none s.exclude.entries)
    (size : (Layout.wireAll (Record.fields s)).length < 2 ^ 64) :
    readExclude (Record.children s) = .ok s.exclude := by
  rw [readExclude, s.first?_exclude]
  by_cases h : s.exclude.isEmpty = true
  · -- an empty filter is left out, since its element could not be read
    have none : s.exclude = {} := by
      obtain ⟨⟨entries⟩, mustBeFresh⟩ := s
      cases entries with
      | nil => rfl
      | cons e entries => cases h
    simp [none, Exclude.isEmpty]
  · have written : s.exclude.layout ∈ Record.fields s := by
      simp [Record.fields, h]
    have fits := Layout.length_wire_le written
    rw [if_neg h]
    show Lookup.inKind _ (Exclude.ofBlock (Block.ofElement s.exclude.layout.element)) = _
    rw [Exclude.ofBlock_element spaced (by simpa using h) (by omega)]
    rfl

theorem read_children {s : LegacyReplicationSelectors}
    (spaced : Exclude.Spaced none s.exclude.entries)
    (size : (Layout.wireAll (Record.fields s)).length < 2 ^ 64) :
    Record.read (Record.children s) = .ok s := by
  have mustBeFresh : Lookup.has TypeNumber.mustBeFresh (Record.children s) = s.mustBeFresh := by
    apply Lookup.has_of_first?
    by_cases h : s.exclude.isEmpty = true
    · simp +decide [Record.children, Record.fields, h]
    · simp +decide [Record.children, Record.fields, h]
  simp only [Record.read, readExclude_children spaced size, mustBeFresh, ok_bind]
  rfl

theorem spaced_of_read {es : List Element} {s : LegacyReplicationSelectors}
    (h : Record.read es = .ok s) : Exclude.Spaced none s.exclude.entries := by
  obtain ⟨filter, hfilter, h⟩ := bind_eq_ok.mp h
  cases h
  rw [readExclude] at hfilter
  split at hfilter
  · cases hfilter
    trivial
  · rename_i e he
    cases read : Exclude.ofBlock (Block.ofElement e) with
    | error cause =>
      rw [read] at hfilter
      cases hfilter
    | ok x =>
      rw [read] at hfilter
      cases hfilter
      exact Exclude.spaced_of_ofBlock read

theorem areFields (s : LegacyReplicationSelectors) : Layout.AreFields (Record.fields s) := by
  by_cases h : s.exclude.isEmpty = true <;> simp [Record.fields, h]

instance : LawfulRecord LegacyReplicationSelectors Edit where
  valid_constructed h := by
    cases h
    trivial
  valid_read _ h := spaced_of_read h
  onWire_read _ := rfl
  areFields {_ s} _ := s.areFields
  read_children {_ s} spaced size _ := ⟨s, read_children spaced size, rfl, rfl⟩
  sound_apply {_ change c} allowed h := by
    cases change with
    | setExclude filter => exact Cached.sound_of_unencoded (Exclude.Built.spaced allowed) rfl
    | setMustBeFresh on => exact Cached.sound_of_unencoded h.valid rfl

end LegacyReplicationSelectors

end NamedData
