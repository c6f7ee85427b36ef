/-
Hints are lawful records, in both schemas.

A hint holds selectors, which come last in what is written and keep an encoding of their own.  The
selectors of every hint that a program can hold are sound themselves, so a hint is as lawful as any
record that holds another one; what is left to say of each schema is how its other fields read back.

* `Hint.read_children`, `LegacyHint.read_children` — hints read back, and so do their selectors.
-/
import NamedData.Proofs.Nested
import NamedData.Proofs.Selectors

namespace NamedData

/-! ### Hints of the current schema -/

namespace Hint

/-- The selectors are sound. -/
instance : Invariant Hint where
  Valid p h := h.selectors.Sound p

theorem isEmpty_eq_true {s : ReplicationSelectors} (h : s.isEmpty = true) : s = {} := by
  obtain ⟨nodeId, interested, availability⟩ := s
  cases nodeId <;> cases interested <;> cases availability <;> first | rfl | cases h

instance : Nesting Hint ReplicationSelectors where
  inside := selectors
  withInside h selectors := { h with selectors := selectors }
  present := hasSelectors
  front h :=
    [h.name.layout] ++ Layout.integerUnless TypeNumber.hintScope defaultHintScope h.scope
  present_eq_false_iff := by
    intro h
    rw [hasSelectors, Bool.not_eq_false']
    exact ⟨isEmpty_eq_true, fun same => by rw [same]; rfl⟩

instance : LawfulNesting Hint ReplicationSelectors Edit ReplicationSelectors.Edit where

theorem fields_eq (h : Hint) : Record.fields h =
    [h.name.layout] ++ Layout.integerUnless TypeNumber.hintScope defaultHintScope h.scope ++
      nestedLayout h.hasSelectors h.selectors := rfl

theorem read_children {p : Provenance} {h : Hint} (sound : h.selectors.Sound p)
    (size : (Layout.wireAll (Record.fields h)).length < 2 ^ 64)
    (fits : Record.Fits h.selectors.fields) :
    ∃ y : Hint, Record.read (Record.children h) = .ok y ∧ Usage.bare y = Usage.bare h ∧
      Record.fields y = Record.fields h := by
  -- the last child is the selectors' own, so no other lookup finds it
  have nested (type : UInt64) := first?_nestedLayout h.hasSelectors type sound fits
  have name (kind : Kind) : Lookup.name kind (Record.children h) = .ok h.name :=
    Lookup.name_map_element size
  have scope : ∃ scope, Lookup.integer? .hint TypeNumber.hintScope (Record.children h) =
      .ok scope ∧ scope.getD defaultHintScope = h.scope := by
    apply Lookup.integer?_getD_of_first?
    simp +decide [Record.children, fields_eq, nested]
  obtain ⟨scope, hscope, scope_eq⟩ := scope
  obtain ⟨d, hd, same⟩ := Nesting.read_inside (x := h) sound fits (by simp +decide [Nesting.front])
  have selectors : readSelectors (Record.children h) = .ok d := hd
  refine ⟨{ h with selectors := d }, ?_, same⟩
  simp only [Record.read, name, hscope, selectors, ok_bind, scope_eq]
  rfl

theorem areFields {h : Hint} (inside : h.selectors.encoding.WellFormed) :
    Layout.AreFields (Record.fields h) :=
  Nesting.areFields (by simp [Nesting.front]) inside

instance : LawfulRecord Hint Edit where
  valid_constructed h := by
    obtain ⟨name, scope, rfl⟩ := h
    exact Cached.sound_of_unencoded trivial rfl
  valid_read hes h := by
    obtain ⟨name, -, h⟩ := bind_eq_ok.mp h
    obtain ⟨scope, -, h⟩ := bind_eq_ok.mp h
    obtain ⟨selectors, hselectors, h⟩ := bind_eq_ok.mp h
    cases h
    exact sound_of_readNested hes rfl hselectors
  onWire_read _ := rfl
  areFields sound := areFields sound.encoding.wellFormed
  read_children sound size fits := read_children sound size fits
  keeps_settle := Nesting.keeps_settle
  keeps_nested := Nesting.keeps_encodeNested
  fields_bare := Nesting.fields_bare
  nested_coherent sound := Cached.Sound.coherent sound
  sound_apply {_ change c} allowed h := by
    cases change with
    | setName name => exact Cached.sound_of_unencoded h.valid rfl
    | setScope scope => exact Cached.sound_of_unencoded h.valid rfl
    | setSelectors selectors =>
      obtain ⟨held, reachable, rfl⟩ := allowed
      exact Cached.sound_of_unencoded reachable.sound rfl
    | inSelectors edit =>
      exact Cached.sound_of_unencoded (LawfulRecord.sound_apply allowed h.valid) rfl

end Hint

/-! ### Hints of the older schema -/

namespace LegacyHint

/-- The selectors are sound. -/
instance : Invariant LegacyHint where
  Valid p h := h.selectors.Sound p

theorem isEmpty_eq_true {s : LegacyReplicationSelectors} (h : s.isEmpty = true) : s = {} := by
  obtain ⟨⟨entries⟩, mustBeFresh⟩ := s
  cases entries <;> cases mustBeFresh <;> first | rfl | cases h

instance : Nesting LegacyHint LegacyReplicationSelectors where
  inside := selectors
  withInside h selectors := { h with selectors := selectors }
  present := hasSelectors
  front h :=
    [h.name.layout, Layout.integer TypeNumber.size h.size] ++
      Layout.integerUnless TypeNumber.hintScope defaultHintScope h.scope
  present_eq_false_iff := by
    intro h
    rw [hasSelectors, Bool.not_eq_false']
    exact ⟨isEmpty_eq_true, fun same => by rw [same]; rfl⟩

instance : LawfulNesting LegacyHint LegacyReplicationSelectors Edit
  LegacyReplicationSelectors.Edit where

theorem fields_eq (h : LegacyHint) : Record.fields h =
    [h.name.layout, Layout.integer TypeNumber.size h.size] ++
      Layout.integerUnless TypeNumber.hintScope defaultHintScope h.scope ++
      nestedLayout h.hasSelectors h.selectors := rfl

theorem readSize_of_first? {es : List Element} {n : UInt64}
    (h : Lookup.first? TypeNumber.size es =
      some (.make TypeNumber.size (NonNegativeInteger.encode n))) : readSize es = .ok n := by
  rw [readSize, h]
  show Lookup.inKind _ (NonNegativeInteger.decode (NonNegativeInteger.encode n)) = _
  rw [NonNegativeInteger.decode_encode]
  rfl

theorem read_children {p : Provenance} {h : LegacyHint} (sound : h.selectors.Sound p)
    (size : (Layout.wireAll (Record.fields h)).length < 2 ^ 64)
    (fits : Record.Fits h.selectors.fields) :
    ∃ y : LegacyHint, Record.read (Record.children h) = .ok y ∧ Usage.bare y = Usage.bare h ∧
      Record.fields y = Record.fields h := by
  -- the last child is the selectors' own, so no other lookup finds it
  have nested (type : UInt64) := first?_nestedLayout h.hasSelectors type sound fits
  have name (kind : Kind) : Lookup.name kind (Record.children h) = .ok h.name :=
    Lookup.name_map_element size
  have written : readSize (Record.children h) = .ok h.size := by
    apply readSize_of_first?
    simp +decide [Record.children, fields_eq]
  have scope : ∃ scope, Lookup.integer? .legacyHint TypeNumber.hintScope (Record.children h) =
      .ok scope ∧ scope.getD defaultHintScope = h.scope := by
    apply Lookup.integer?_getD_of_first?
    simp +decide [Record.children, fields_eq, nested]
  obtain ⟨scope, hscope, scope_eq⟩ := scope
  obtain ⟨d, hd, same⟩ := Nesting.read_inside (x := h) sound fits (by simp +decide [Nesting.front])
  have selectors : readSelectors (Record.children h) = .ok d := hd
  refine ⟨{ h with selectors := d }, ?_, same⟩
  simp only [Record.read, name, written, hscope, selectors, ok_bind, scope_eq]
  rfl

theorem areFields {h : LegacyHint} (inside : h.selectors.encoding.WellFormed) :
    Layout.AreFields (Record.fields h) :=
  Nesting.areFields (by simp [Nesting.front]) inside

instance : LawfulRecord LegacyHint Edit where
  valid_constructed h := by
    obtain ⟨name, size, rfl⟩ := h
    exact Cached.sound_of_unencoded trivial rfl
  valid_read hes h := by
    obtain ⟨name, -, h⟩ := bind_eq_ok.mp h
    obtain ⟨size, -, h⟩ := bind_eq_ok.mp h
    obtain ⟨scope, -, h⟩ := bind_eq_ok.mp h
    obtain ⟨selectors, hselectors, h⟩ := bind_eq_ok.mp h
    cases h
    exact sound_of_readNested hes rfl hselectors
  onWire_read _ := rfl
  areFields sound := areFields sound.encoding.wellFormed
  read_children sound size fits := read_children sound size fits
  keeps_settle := Nesting.keeps_settle
  keeps_nested := Nesting.keeps_encodeNested
  fields_bare := Nesting.fields_bare
  nested_coherent sound := Cached.Sound.coherent sound
  sound_apply {_ change c} allowed h := by
    cases change with
    | setName name => exact Cached.sound_of_unencoded h.valid rfl
    | setSize size => exact Cached.sound_of_unencoded h.valid rfl
    | setScope scope => exact Cached.sound_of_unencoded h.valid rfl
    | setSelectors selectors =>
      obtain ⟨held, reachable, rfl⟩ := allowed
      exact Cached.sound_of_unencoded reachable.sound rfl
    | inSelectors edit =>
      exact Cached.sound_of_unencoded (LawfulRecord.sound_apply allowed h.valid) rfl

end LegacyHint

end NamedData
