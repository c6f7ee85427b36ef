/-
What a byte string is decoded as depends on its type number alone, and no change makes that number
another one.

The two schemas differ in the numbers that they know, in nothing else.  A packet that was decoded
has the number of its kind, and so has every encoding of it from then on: an encoding that it keeps
was decoded or written with that number, a nonce that is written over lies inside the value, and
whatever else changes a field drops the encoding.

* `Kind.Marked` — an encoding that a record keeps has the type number of its kind;
* `Kind.kept_marked`, `Kind.marked_run` — operations keep it so, whatever values they put into the
  fields;
* `Packet.ofWire_consistent` — the schemas agree on everything that both know, and the kind of a
  decoded packet, its type number and the type number of the bytes are the same for good.
-/
import NamedData.Proofs.Observation
import NamedData.Proofs.Failures

namespace NamedData

/-! ### Blocks inside records -/

namespace Kind

/-- The encoding that the record inside a record keeps. Only hints hold a record. -/
def inside? : (k : Kind) → k.recordType.Fields → Option Block
  | .hint => fun h : Hint => h.selectors.wire?
  | .legacyHint => fun h : LegacyHint => h.selectors.wire?
  | _ => fun _ => none

/-- The encoding that the selectors bring along which a change puts into a hint. -/
def broughtBy? : (k : Kind) → k.recordType.Edit → Option Block
  | .hint => fun
    | Hint.Edit.setSelectors selectors => selectors.wire?
    | _ => none
  | .legacyHint => fun
    | LegacyHint.Edit.setSelectors selectors => selectors.wire?
    | _ => none
  | _ => fun _ => none

end Kind

/-- The block that an operation brings along from elsewhere. -/
def Operation.broughtBy? (k : Kind) : Operation k.recordType.Edit → Option Block
  | .edit change => k.broughtBy? change
  | .decode b => some b
  | _ => none

section

variable {α : Type} [Record α] {c : Cached α}

theorem Cached.wire_encode (c : Cached α) : c.encode.2.wire? = some c.encoding := by
  obtain ⟨fields, wire?⟩ := c
  cases wire? <;> rfl

theorem Cached.wellFormed_encoding (h : ∀ b ∈ c.wire?, b.WellFormed) : c.encoding.WellFormed := by
  obtain ⟨fields, wire?⟩ := c
  cases wire? with
  | some b => exact h b rfl
  | none => exact (Record.wellFormed_encodeFresh fields).1

theorem Cached.wellFormed_wire_encode (h : ∀ b ∈ c.wire?, b.WellFormed) :
    ∀ b ∈ c.encode.2.wire?, b.WellFormed := by
  intro b hb
  rw [c.wire_encode] at hb
  cases hb
  exact Cached.wellFormed_encoding h

theorem wellFormed_of_readNested [Record.LawfulNumbers α] {es : List Element}
    (hes : ∀ e ∈ es, e.WellFormed) (h : readNested es = .ok c) : ∀ b ∈ c.wire?, b.WellFormed := by
  intro b hb
  rw [readNested] at h
  split at h
  · cases h
    cases hb
  · rename_i e he
    have wellFormed := Block.wellFormed_ofElement (hes e (Lookup.mem_of_first? he))
    obtain ⟨-, q, parsed, -, wire⟩ := Record.ofBlock_eq_ok_iff.mp h
    rw [Option.mem_def, wire] at hb
    cases hb
    exact Block.wellFormed_of_parse wellFormed parsed

end

namespace Nesting

variable {α β : Type} [Record α] [Record β] [Nesting α β] {x : α}

theorem wellFormed_encodeInside (h : ∀ b ∈ (inside x).wire?, b.WellFormed) :
    ∀ b ∈ (inside (encodeInside x)).wire?, b.WellFormed := by
  rw [encodeInside, inside_withInside]
  exact Cached.wellFormed_wire_encode h

theorem wellFormed_settle (h : ∀ b ∈ (inside x).wire?, b.WellFormed) :
    ∀ b ∈ (inside (Record.settle x)).wire?, b.WellFormed := by
  rcases settle_cases x with same | same <;> rw [same]
  · exact wellFormed_encodeInside h
  · exact h

end Nesting

namespace Kind

variable {k : Kind}

/-- Fields are written as elements when the encodings kept inside are. -/
theorem areFields {x : k.recordType.Fields} (inside : ∀ b ∈ k.inside? x, b.WellFormed) :
    Layout.AreFields (Record.fields x) := by
  cases k with
  | announcement => exact Announcement.areFields x
  | hint => exact Hint.areFields (Cached.wellFormed_encoding inside)
  | legacyHint => exact LegacyHint.areFields (Cached.wellFormed_encoding inside)
  | legacyReplicationSelectors => exact LegacyReplicationSelectors.areFields x
  | forwarderStatus => exact ForwarderStatus.areFields x
  -- the fields of the others are written as elements whatever they are
  | vicinity => exact LawfulRecord.areFields (p := .received) trivial
  | vicinityData => exact LawfulRecord.areFields (p := .received) trivial
  | replicationSelectors => exact LawfulRecord.areFields (p := .received) trivial
  | strategySelectors => exact LawfulRecord.areFields (p := .received) trivial
  | pdrmStrategySelectors => exact LawfulRecord.areFields (p := .received) trivial
  | faceStatus => exact LawfulRecord.areFields (p := .received) trivial

/-- If the fields can be written at all, then to an element of the type number of the kind. -/
theorem type_encodeFresh {x : k.recordType.Fields} (inside : ∀ b ∈ k.inside? x, b.WellFormed)
    (fits : Record.estimate x ≤ maxPosition) : (Record.encodeFresh x).type = k.type := by
  have encoded : (Record.layout x).encode = _ := Layout.encode_of_encode?
    (Layout.encode_group (areFields inside) (Record.length_of_estimate fits))
  rw [Record.encodeFresh, encoded, ← k.writtenType_recordType]
  rfl

theorem inside_settle {x : k.recordType.Fields} (inside : ∀ b ∈ k.inside? x, b.WellFormed) :
    ∀ b ∈ k.inside? (Record.settle x), b.WellFormed := by
  cases k with
  | hint => exact Nesting.wellFormed_settle (α := Hint) inside
  | legacyHint => exact Nesting.wellFormed_settle (α := LegacyHint) inside
  | _ => exact inside

theorem inside_encodeNested {x y : k.recordType.Fields} {b : Block}
    (inside : ∀ b ∈ k.inside? x, b.WellFormed) (h : Record.encodeNested? x = some (b, y)) :
    ∀ b ∈ k.inside? y, b.WellFormed := by
  cases k with
  | hint =>
    cases h
    exact Nesting.wellFormed_encodeInside (α := Hint) inside
  | legacyHint =>
    cases h
    exact Nesting.wellFormed_encodeInside (α := LegacyHint) inside
  | _ => cases h

theorem inside_read {es : List Element} {x : k.recordType.Fields} (hes : ∀ e ∈ es, e.WellFormed)
    (h : Record.read es = .ok x) : ∀ b ∈ k.inside? x, b.WellFormed := by
  cases k with
  | hint =>
    obtain ⟨name, -, h⟩ := bind_eq_ok.mp h
    obtain ⟨scope, -, h⟩ := bind_eq_ok.mp h
    obtain ⟨selectors, hselectors, h⟩ := bind_eq_ok.mp h
    cases h
    exact wellFormed_of_readNested (α := ReplicationSelectors) hes hselectors
  | legacyHint =>
    obtain ⟨name, -, h⟩ := bind_eq_ok.mp h
    obtain ⟨size, -, h⟩ := bind_eq_ok.mp h
    obtain ⟨scope, -, h⟩ := bind_eq_ok.mp h
    obtain ⟨selectors, hselectors, h⟩ := bind_eq_ok.mp h
    cases h
    exact wellFormed_of_readNested (α := LegacyReplicationSelectors) hes hselectors
  | _ =>
    intro b hb
    cases hb

/-! ### Encodings of the right type -/

/-- The encodings that the record keeps are well-formed blocks, and its own has the type number of
the kind, if there is room for the fields at all. -/
structure Marked (k : Kind) (c : Cached k.recordType.Fields) : Prop where
  inside : ∀ b ∈ k.inside? c.fields, b.WellFormed
  kept : ∀ b ∈ c.wire?, b.WellFormed ∧ b.isParsed = true ∧
    (Record.estimate c.fields ≤ maxPosition → b.type = k.type)

section

variable {c : Cached k.recordType.Fields} {b : Block}

theorem marked_of_unencoded (inside : ∀ b ∈ k.inside? c.fields, b.WellFormed)
    (none : c.wire? = none) : k.Marked c := by
  refine ⟨inside, ?_⟩
  intro b hb
  rw [none] at hb
  cases hb

theorem Marked.type_encoding (h : k.Marked c) (fits : Record.estimate c.fields ≤ maxPosition) :
    c.encoding.type = k.type := by
  obtain ⟨fields, wire?⟩ := c
  cases wire? with
  | some b => exact (h.kept b rfl).2.2 fits
  | none => exact type_encodeFresh h.inside fits

/-- Other fields that are written as the ones before. -/
theorem Marked.withFields (h : k.Marked c) {x : k.recordType.Fields}
    (inside : ∀ b ∈ k.inside? x, b.WellFormed) (fields : Record.fields x = Record.fields c.fields) :
    k.Marked { c with fields := x } := by
  refine ⟨inside, ?_⟩
  intro b hb
  obtain ⟨wellFormed, parsed, type⟩ := h.kept b hb
  refine ⟨wellFormed, parsed, ?_⟩
  intro fits
  apply type
  rwa [Record.estimate, Record.layout, ← fields]

theorem Marked.settled (h : k.Marked c) : k.Marked c.settled :=
  h.withFields (inside_settle h.inside) (Record.fields_settle c.fields)

theorem Marked.encode (h : k.Marked c) : k.Marked c.encode.2 := by
  obtain ⟨fields, wire?⟩ := c
  cases wire? with
  | some b => exact h
  | none =>
    have written := Record.wellFormed_encodeFresh fields
    refine ⟨inside_settle h.inside, ?_⟩
    intro b hb
    cases hb
    refine ⟨written.1, written.2, ?_⟩
    intro fits
    apply type_encodeFresh h.inside
    rwa [Record.estimate, Record.layout, ← Record.fields_settle fields]

theorem marked_ofBlock (hb : b.WellFormed) (h : Cached.ofBlock b = .ok c) : k.Marked c := by
  obtain ⟨type, q, parsed, read, wire⟩ := Record.ofBlock_eq_ok_iff.mp h
  have wellFormed := Block.wellFormed_of_parse hb parsed
  refine ⟨inside_read (fun e => Block.wellFormed_children wellFormed) read, ?_⟩
  intro r hr
  rw [Option.mem_def, wire] at hr
  cases hr
  obtain ⟨es, -, rfl⟩ := (Block.parse_eq_ok_iff hb).mp parsed
  exact ⟨wellFormed, rfl, fun _ => type.trans (congrArg Kind.type k.kind_recordType)⟩

end

/-- A nonce is written over inside the value, so the header in front of it stays. -/
theorem marked_withNonce {c : Cached Announcement} (h : Kind.announcement.Marked c) (n : UInt32) :
    Kind.announcement.Marked (Announcement.withNonce n c) := by
  refine ⟨h.inside, ?_⟩
  intro q hq
  obtain ⟨b, hb, hp⟩ := Option.bind_eq_some_iff.mp hq
  obtain ⟨wellFormed, parsed, type⟩ := h.kept b hb
  obtain ⟨wellFormed', parsed'⟩ := Announcement.wellFormed_of_patchNonce parsed hp
  obtain ⟨front, e, behind, -, -, -, rfl⟩ :=
    Announcement.patchNonce_children wellFormed parsed hp
  refine ⟨wellFormed', parsed', ?_⟩
  intro fits
  exact type (Announcement.fits_of_fits ⟨fits, trivial⟩).1

theorem marked_announcement {c : Cached Announcement} {change : Announcement.Edit}
    (h : Kind.announcement.Marked c) : Kind.announcement.Marked (change.apply c) := by
  apply Announcement.apply_cases
  · intro name
    exact marked_of_unencoded h.inside rfl
  · intro timeout
    exact marked_of_unencoded h.inside rfl
  · exact marked_withNonce h
  · exact h

/-- Whatever a change puts into the fields, the number stays. -/
theorem marked_apply {c : Cached k.recordType.Fields} {change : k.recordType.Edit}
    (brought : ∀ b ∈ k.broughtBy? change, b.WellFormed) (h : k.Marked c) :
    k.Marked (Editable.apply change c) := by
  cases k with
  | announcement => exact marked_announcement h
  | hint =>
    cases change with
    | setName name => exact marked_of_unencoded h.inside rfl
    | setScope scope => exact marked_of_unencoded h.inside rfl
    | setSelectors selectors => exact marked_of_unencoded brought rfl
    | inSelectors edit =>
      refine marked_of_unencoded ?_ rfl
      cases edit <;> exact fun b hb => by cases hb
  | legacyHint =>
    cases change with
    | setName name => exact marked_of_unencoded h.inside rfl
    | setSize size => exact marked_of_unencoded h.inside rfl
    | setScope scope => exact marked_of_unencoded h.inside rfl
    | setSelectors selectors => exact marked_of_unencoded brought rfl
    | inSelectors edit =>
      refine marked_of_unencoded ?_ rfl
      cases edit <;> exact fun b hb => by cases hb
  -- the others drop their encoding with every change, and hold nothing
  | _ =>
    refine marked_of_unencoded (fun b hb => by cases hb) ?_
    cases change <;> rfl

/-! ### Operations -/

/-- Whatever is done to a marked record leaves it marked. -/
theorem kept_marked : Cached.Kept (α := k.recordType.Fields) k.Marked
    (fun change => ∀ b ∈ k.broughtBy? change, b.WellFormed) Block.WellFormed where
  edit := marked_apply
  ofBlock := marked_ofBlock
  encode h := h.encode
  settled h := h.settled
  nested {c b x} h hx := by
    have fields : Record.fields x = Record.fields c.fields := by
      rw [Record.eq_filled_of_encodeNested hx, LawfulFilling.fields_filled]
    exact h.withFields (inside_encodeNested h.inside hx) fields

/-- Any sequence of operations keeps the record marked, and the copy of it. -/
theorem marked_run {s : Session k.recordType.Fields} {ops : List (Operation k.recordType.Edit)}
    (brought : ∀ op ∈ ops, ∀ b ∈ op.broughtBy? k, b.WellFormed)
    (marked : ∀ h ∈ s.records, k.Marked h.toCached) :
    ∀ h ∈ (s.run ops).2.records, k.Marked h.toCached := by
  apply Session.forall_records_run kept_marked _ marked
  intro op hop
  have brought := brought op hop
  cases op with
  | edit change => exact brought
  | decode b => exact brought b rfl
  | _ => trivial

end Kind

/-! ### Packets -/

namespace Packet

/-- The packet as the record of its kind that is held. -/
def held : (p : Packet) → Held p.content.1.recordType.Fields
  | .announcement p => p
  | .hint p => p
  | .legacyHint p => p
  | .vicinity p => p
  | .vicinityData p => p
  | .replicationSelectors s => { toCached := s }
  | .legacyReplicationSelectors s => { toCached := s }
  | .strategySelectors s => { toCached := s }
  | .pdrmStrategySelectors s => { toCached := s }
  | .faceStatus s => { toCached := s }
  | .forwarderStatus s => { toCached := s }

/-- The packet that a held record of a kind is. -/
def ofHeld : (k : Kind) → Held k.recordType.Fields → Packet
  | .announcement => .announcement
  | .hint => .hint
  | .legacyHint => .legacyHint
  | .vicinity => .vicinity
  | .vicinityData => .vicinityData
  | .replicationSelectors => fun h => .replicationSelectors h.toCached
  | .legacyReplicationSelectors => fun h => .legacyReplicationSelectors h.toCached
  | .strategySelectors => fun h => .strategySelectors h.toCached
  | .pdrmStrategySelectors => fun h => .pdrmStrategySelectors h.toCached
  | .faceStatus => fun h => .faceStatus h.toCached
  | .forwarderStatus => fun h => .forwarderStatus h.toCached

theorem toCached_held (p : Packet) : p.held.toCached = p.content.2 := by
  cases p <;> rfl

theorem content_ofHeld (k : Kind) (h : Held k.recordType.Fields) :
    (ofHeld k h).content = ⟨k, h.toCached⟩ := by
  cases k <;> rfl

theorem ofBlock_current_of_legacy {b : Block} {p : Packet} (h : ofBlock .current b = .ok p) :
    ofBlock .legacy b = .ok p := by
  obtain ⟨k, known, hp⟩ := ofBlock_eq_ok_iff.mp h
  rw [kindUnder_current] at known
  split at known
  · cases known
  · exact ofBlock_eq_ok_iff.mpr ⟨k, by rwa [kindUnder_legacy], hp⟩

/-- A block has an unknown type when its type number has no kind, and for no other reason. -/
theorem ofBlock_eq_unknownType_iff {schema : SchemaVersion} {b : Block} (hb : b.WellFormed)
    {t : UInt64} : ofBlock schema b = .error (.unknownType t) ↔
      t = b.type ∧ kindUnder? schema b.type = none := by
  constructor
  · intro h
    rcases ofBlock_eq_error hb h with ⟨unknown, same⟩ | ⟨k, -, refuses⟩
    · cases same
      exact ⟨rfl, unknown⟩
    · obtain ⟨blamed, blames⟩ := refuses.blames
      cases blames
  · rintro ⟨rfl, unknown⟩
    rw [ofBlock, unknown]

theorem ofWire_of_decode {schema : SchemaVersion} {bs : Bytes} {b : Block}
    (h : Block.decode bs = .ok b) : ofWire schema bs = ofBlock schema b := by
  rw [ofWire, h]

/-- What a packet was decoded from, and that its record is marked. -/
theorem marked_of_ofWire {schema : SchemaVersion} {bs : Bytes} {p : Packet}
    (h : ofWire schema bs = .ok p) : ∃ b, Block.decode bs = .ok b ∧
      Kind.ofType? b.type = some p.content.1 ∧ p.encoding.wire = bs ∧ p.encoding.type = b.type ∧
      p.content.1.Marked p.held.toCached := by
  obtain ⟨b, decoded, hp⟩ := ofWire_eq_ok_iff.mp h
  obtain ⟨k, known, hp⟩ := ofBlock_eq_ok_iff.mp hp
  obtain ⟨c, hc, content⟩ := content_of_ofBlockAs hp
  have wellFormed := Block.wellFormed_of_decode decoded
  have type := type_of_kindUnder known
  obtain ⟨-, q, parsed, -, kept⟩ := Record.ofBlock_eq_ok_iff.mp hc
  refine ⟨b, decoded, ?_, (decode_then_encode h).1, ?_, ?_⟩
  · rw [content, type]
    exact k.ofType_type
  · -- the encoding that it keeps is the block that was decoded, split
    obtain ⟨es, -, rfl⟩ := (Block.parse_eq_ok_iff wellFormed).mp parsed
    rw [encoding_eq, content, Cached.encoding, kept]
    rfl
  · rw [toCached_held, content]
    exact Kind.marked_ofBlock wellFormed hc

/-- The look-up of the kind that a number announces, the numbers that decoders expect, those that
encoders write and the dispatch under each schema go together. -/
theorem numbers_agree (t : UInt64) (k : Kind) :
    (Kind.ofType? t = some k ↔ t = Record.expectedType k.recordType.Fields) ∧
      (Kind.ofType? t = some k ↔ t = Record.writtenType k.recordType.Fields) ∧
      ∀ schema, kindUnder? schema t = some k ↔
        Kind.ofType? t = some k ∧ (k.isLegacy = true → schema = .legacy) := by
  rw [k.expectedType_recordType, k.writtenType_recordType, Kind.ofType?_eq_some_iff]
  exact ⟨Iff.rfl, Iff.rfl, fun schema => kindUnder?_eq_some_iff⟩

/-- Both schemas make the same of a byte string, unless it is one element of one of the two type
numbers that only the older schema knows; what the current schema accepts, the older one accepts as
the same packet. A packet has the kind that its type number announces, and its encoding has that
number. Both stay so for the packet and every copy of it, whatever is done to them and whatever is
put into their fields, as long as these can be written at all: the encoding that they have then and
the one that they would get afresh are of that type. This rests on the tables that say which number
belongs to which kind: the dispatch, the look-up for errors in the framing, and the numbers that
decoders expect and encoders write are the same for every kind. -/
theorem ofWire_consistent (bs : Bytes) :
    (∀ t k, (Kind.ofType? t = some k ↔ t = Record.expectedType k.recordType.Fields) ∧
      (Kind.ofType? t = some k ↔ t = Record.writtenType k.recordType.Fields) ∧
      ∀ schema, kindUnder? schema t = some k ↔
        Kind.ofType? t = some k ∧ (k.isLegacy = true → schema = .legacy)) ∧
    ((∀ b, Block.decode bs = .ok b → b.type ≠ 207 ∧ b.type ≠ 208) →
      ofWire .current bs = ofWire .legacy bs) ∧
    (∀ b, Block.decode bs = .ok b → b.type = 207 ∨ b.type = 208 →
      ofWire .current bs = .error (.unknownType b.type)) ∧
    (∀ p, ofWire .current bs = .ok p → ofWire .legacy bs = .ok p) ∧
    (∀ b t, Block.decode bs = .ok b →
      (ofWire .legacy bs = .error (.unknownType t) ↔ t = b.type ∧ Kind.ofType? t = none)) ∧
    ∀ schema p, ofWire schema bs = .ok p → ∃ b, Block.decode bs = .ok b ∧
      Kind.ofType? b.type = some p.kind ∧ p.encoding.wire = bs ∧ p.encoding.type = b.type ∧
      ∀ ops : List (Operation p.content.1.recordType.Edit),
        (∀ op ∈ ops, ∀ c ∈ op.broughtBy? p.content.1, c.WellFormed) →
        ∀ h ∈ ((Session.start p.held).run ops).2.records, Record.estimate h.fields ≤ maxPosition →
          (ofHeld p.content.1 h).kind = p.kind ∧ (ofHeld p.content.1 h).encoding.type = b.type ∧
            (ofHeld p.content.1 h).encodeFresh.type = b.type := by
  refine ⟨numbers_agree, ?_, ?_, ?_, ?_, ?_⟩
  · intro common
    cases decoded : Block.decode bs with
    | error cause => rw [ofWire, ofWire, decoded]
    | ok b =>
      obtain ⟨not207, not208⟩ := common b decoded
      rw [ofWire_of_decode decoded, ofWire_of_decode decoded, ofBlock, ofBlock, kindUnder_current,
        kindUnder_legacy, if_neg (not_or.mpr ⟨not207, not208⟩)]
  · intro b decoded legacyOnly
    rw [ofWire_of_decode decoded, ofBlock, kindUnder_current, if_pos legacyOnly]
  · intro p h
    obtain ⟨b, decoded, hp⟩ := ofWire_eq_ok_iff.mp h
    rw [ofWire_of_decode decoded]
    exact ofBlock_current_of_legacy hp
  · intro b t decoded
    rw [ofWire_of_decode decoded,
      ofBlock_eq_unknownType_iff (Block.wellFormed_of_decode decoded), kindUnder_legacy]
    constructor
    · rintro ⟨rfl, unknown⟩
      exact ⟨rfl, unknown⟩
    · rintro ⟨rfl, unknown⟩
      exact ⟨rfl, unknown⟩
  · intro schema p h
    obtain ⟨b, decoded, known, wire, type, marked⟩ := marked_of_ofWire h
    refine ⟨b, decoded, by rwa [kind_eq], wire, type, ?_⟩
    intro ops brought h held fits
    have marked' := Kind.marked_run (s := Session.start p.held) brought
      (List.forall_mem_singleton.mpr marked) h held
    have type' := Kind.type_of_ofType known
    refine ⟨?_, ?_, ?_⟩
    · rw [kind_eq, kind_eq, content_ofHeld]
    · rw [encoding_eq, content_ofHeld, ← type']
      exact marked'.type_encoding fits
    · rw [encodeFresh_eq, content_ofHeld, ← type']
      exact Kind.type_encodeFresh marked'.inside fits

/-- Selectors of the older schema, which the current one does not know. The flag in them is taken
away, which drops their encoding, and they are encoded again. -/
theorem ofWire_consistent_legacySelectors :
    let bs : Bytes := [208, 2, 18, 0]
    let wire : Block := ⟨⟨208, [208, 2], [18, 0]⟩, some [⟨18, [18, 0], []⟩]⟩
    let c : Cached LegacyReplicationSelectors := ⟨{ mustBeFresh := true }, some wire⟩
    ofWire .current bs = .error (.unknownType 208) ∧
      ofWire .legacy bs = .ok (.legacyReplicationSelectors c) ∧
      ∀ h ∈ ((Session.start { toCached := c }).run
        [.edit (.setMustBeFresh false), .encode]).2.records, h.encoding.type = 208 := by
  intro bs wire c
  obtain ⟨-, -, legacyOnly, -, -, kept⟩ := ofWire_consistent bs
  have unsplit : Block.decode bs = .ok (Block.ofElement wire.element) := rfl
  have child : Element.WellFormed ⟨18, [18, 0], []⟩ := ⟨0, rfl, rfl⟩
  have split : Element.split [18, 0] = .ok [⟨18, [18, 0], []⟩] :=
    Element.split_eq_ok_iff.mpr ⟨List.forall_mem_singleton.mpr child, rfl⟩
  have parsed : (Block.ofElement wire.element).parse = .ok wire := map_eq_ok.mpr ⟨_, split, rfl⟩
  have selectors : Cached.ofBlock (Block.ofElement wire.element) = .ok c :=
    Record.ofBlock_eq_ok_iff.mpr ⟨rfl, wire, parsed, rfl, rfl⟩
  have accepted : ofWire .legacy bs = .ok (.legacyReplicationSelectors c) :=
    ofWire_eq_ok_iff.mpr ⟨_, unsplit, ofBlock_eq_ok_iff.mpr
      ⟨.legacyReplicationSelectors, rfl, map_eq_ok.mpr ⟨c, selectors, rfl⟩⟩⟩
  obtain ⟨b, decoded, -, -, -, stays⟩ := kept _ _ accepted
  rw [unsplit] at decoded
  cases decoded
  refine ⟨legacyOnly _ unsplit (.inr rfl), accepted, ?_⟩
  intro h held
  have brought : ∀ op ∈ [Operation.edit (LegacyReplicationSelectors.Edit.setMustBeFresh false),
      .encode], ∀ c ∈ op.broughtBy? .legacyReplicationSelectors, c.WellFormed := by
    simp [Operation.broughtBy?, Kind.broughtBy?]
  have fits : Record.estimate h.fields ≤ maxPosition := by
    rw [List.mem_singleton.mp held]
    decide
  exact (stays _ brought h held fits).2.1

end Packet

end NamedData
