/-
Decoded packets keep their bytes, and encoding them afresh normalises them.

A decoded packet is its received bytes, however odd these are, as long as nobody asks for a fresh
encoding.  A fresh encoding drops what the fields do not show: headers that are wider than needed,
children that are unknown or repeated, bytes that are no text.  Doing it once is enough.

* `Packet.content` — the packet as its kind and a cached record of that kind;
* `Packet.content_of_ofBlockAs`, `Packet.ofBlockAs_of_ofBlock` — decoding a packet is decoding a
  record of its kind;
* `Packet.decode_then_encode` — the received bytes are kept, and a fresh encoding decodes to a
  packet with the same fields, whose fresh encoding is the same bytes again.
-/
import NamedData.Proofs.Coherence

namespace NamedData

namespace Packet

/-- The packet as its kind and a cached record of that kind. -/
def content : Packet → (k : Kind) × Cached k.recordType.Fields
  | .announcement p => ⟨.announcement, p.toCached⟩
  | .hint p => ⟨.hint, p.toCached⟩
  | .legacyHint p => ⟨.legacyHint, p.toCached⟩
  | .vicinity p => ⟨.vicinity, p.toCached⟩
  | .vicinityData p => ⟨.vicinityData, p.toCached⟩
  | .replicationSelectors s => ⟨.replicationSelectors, s⟩
  | .legacyReplicationSelectors s => ⟨.legacyReplicationSelectors, s⟩
  | .strategySelectors s => ⟨.strategySelectors, s⟩
  | .pdrmStrategySelectors s => ⟨.pdrmStrategySelectors, s⟩
  | .faceStatus s => ⟨.faceStatus, s⟩
  | .forwarderStatus s => ⟨.forwarderStatus, s⟩

/-- The kind of the packet and its fields, with no encoding kept anywhere in them. -/
def plain (p : Packet) : (k : Kind) × k.recordType.Fields :=
  ⟨p.content.1, Usage.bare p.content.2.fields⟩

/-- The encoding of the packet is no longer than the greatest position. -/
def Fits (p : Packet) : Prop := Record.Fits p.content.2.fields

theorem kind_eq (p : Packet) : p.kind = p.content.1 := by
  cases p <;> rfl

theorem encoding_eq (p : Packet) : p.encoding = p.content.2.encoding := by
  cases p <;> rfl

theorem encodeFresh_eq (p : Packet) : p.encodeFresh = Record.encodeFresh p.content.2.fields := by
  cases p <;> rfl

section

variable {b : Block} {k : Kind} {p : Packet}

/-- A packet decoded as one of a kind holds a record of the kind decoded from the same block. -/
theorem content_of_ofBlockAs (h : ofBlockAs b k = .ok p) :
    ∃ c : Cached k.recordType.Fields, Cached.ofBlock b = .ok c ∧ p.content = ⟨k, c⟩ := by
  cases k <;>
  · obtain ⟨c, hc, rfl⟩ := map_eq_ok.mp h
    exact ⟨c, hc, rfl⟩

theorem ofBlockAs_of_ofBlock {c : Cached k.recordType.Fields} (h : Cached.ofBlock b = .ok c) :
    ∃ p, ofBlockAs b k = .ok p ∧ p.content = ⟨k, c⟩ := by
  cases k <;> exact ⟨_, map_eq_ok.mpr ⟨c, h, rfl⟩, rfl⟩

theorem ofBlock_eq_ok_iff {schema : SchemaVersion} : ofBlock schema b = .ok p ↔
    ∃ k, kindUnder? schema b.type = some k ∧ ofBlockAs b k = .ok p := by
  rw [ofBlock]
  cases kindUnder? schema b.type with
  | none => simp
  | some k => simp

theorem ofWire_eq_ok_iff {schema : SchemaVersion} {bs : Bytes} : ofWire schema bs = .ok p ↔
    ∃ b, Block.decode bs = .ok b ∧ ofBlock schema b = .ok p := by
  rw [ofWire]
  cases Block.decode bs with
  | error e => simp
  | ok b => simp

end

/-- A decoded packet is encoded as the bytes that it was decoded from. Encoding its fields afresh
gives bytes that decode, under the same schema, to a packet of the same kind with the same fields,
and encoding these afresh gives the same bytes again. -/
theorem decode_then_encode {schema : SchemaVersion} {bs : Bytes} {p : Packet}
    (h : ofWire schema bs = .ok p) :
    p.encoding.wire = bs ∧
      (p.Fits → ∃ q, ofWire schema p.encodeFresh.wire = .ok q ∧ q.kind = p.kind ∧
        q.plain = p.plain ∧ q.encodeFresh.wire = p.encodeFresh.wire) := by
  obtain ⟨b, hb, h⟩ := ofWire_eq_ok_iff.mp h
  obtain ⟨k, hk, h⟩ := ofBlock_eq_ok_iff.mp h
  obtain ⟨c, hc, content⟩ := content_of_ofBlockAs h
  obtain ⟨-, -, wire⟩ := Block.decode_eq_ok_iff.mp hb
  have wellFormed := Block.wellFormed_of_decode hb
  obtain ⟨type, split, hsplit, read, kept⟩ := Record.ofBlock_eq_ok_iff.mp hc
  constructor
  · obtain ⟨es, -, rfl⟩ := (Block.parse_eq_ok_iff wellFormed).mp hsplit
    rw [encoding_eq, content, Cached.encoding, kept]
    exact wire
  · intro fits
    rw [Fits, content] at fits
    have sound := Cached.sound_ofBlock wellFormed hc
    have readsBack := Record.readsBack_encodeFresh sound.valid fits
    have fresh := Record.wellFormed_encodeFresh c.fields
    have kind : kindUnder? schema (Record.encodeFresh c.fields).type = some k := by
      rw [readsBack.type_eq, ← type, hk]
    obtain ⟨d, hd, fields, same⟩ := readsBack
    -- the fresh encoding decodes to a block that was not split yet, which makes no difference
    have decoded : Block.decode (Record.encodeFresh c.fields).wire =
        .ok (Block.ofElement (Record.encodeFresh c.fields).element) :=
      Block.decode_eq_ok_iff.mpr ⟨fresh.1.element, rfl, rfl⟩
    rw [← Record.ofBlock_ofElement fresh.1] at hd
    obtain ⟨q, hq, content'⟩ := ofBlockAs_of_ofBlock hd
    refine ⟨q, ?_, ?_, ?_, ?_⟩
    · rw [encodeFresh_eq, content]
      exact ofWire_eq_ok_iff.mpr ⟨_, decoded, ofBlock_eq_ok_iff.mpr ⟨k, kind, hq⟩⟩
    · rw [kind_eq, kind_eq, content, content']
    · rw [plain, plain, content, content']
      simp only [fields, LawfulRecord.onWire_read read]
    · rw [encodeFresh_eq, encodeFresh_eq, content, content']
      simp only [Record.encodeFresh, Record.layout, same]

/-- Selectors with nothing set, whose header is wider than needed and whose only child is
unknown. -/
theorem decode_then_encode_strategySelectors :
    let bs : Bytes := [205, 253, 0, 3, 99, 1, 0]
    let wire : Block := ⟨⟨205, [205, 253, 0, 3], [99, 1, 0]⟩, some [⟨99, [99, 1], [0]⟩]⟩
    let p := Packet.strategySelectors ⟨{}, some wire⟩
    ofWire .current bs = .ok p ∧ p.encoding.wire = bs ∧ p.encodeFresh.wire = [205, 0] ∧
      ∃ q, ofWire .current [205, 0] = .ok q ∧ q.plain = p.plain ∧
        q.encodeFresh.wire = [205, 0] := by
  intro bs wire p
  have child : Element.WellFormed ⟨99, [99, 1], [0]⟩ := ⟨1, rfl, rfl⟩
  have split : Element.split [99, 1, 0] = .ok [⟨99, [99, 1], [0]⟩] :=
    Element.split_eq_ok_iff.mpr ⟨List.forall_mem_singleton.mpr child, rfl⟩
  have parsed : (Block.ofElement wire.element).parse = .ok wire := map_eq_ok.mpr ⟨_, split, rfl⟩
  have selectors : Cached.ofBlock (Block.ofElement wire.element) =
      .ok ⟨({} : StrategySelectors), some wire⟩ :=
    Record.ofBlock_eq_ok_iff.mpr ⟨rfl, wire, parsed, rfl, rfl⟩
  have decoded : ofWire .current bs = .ok p :=
    ofWire_eq_ok_iff.mpr ⟨Block.ofElement wire.element, rfl,
      ofBlock_eq_ok_iff.mpr ⟨.strategySelectors, rfl, map_eq_ok.mpr ⟨_, selectors, rfl⟩⟩⟩
  have short : p.encodeFresh.wire = [205, 0] := by decide +kernel
  obtain ⟨kept, again⟩ := decode_then_encode decoded
  obtain ⟨q, hq, -, fields, same⟩ := again ⟨by decide, trivial⟩
  rw [short] at hq same
  exact ⟨decoded, kept, short, q, hq, fields, same⟩

end Packet

end NamedData
