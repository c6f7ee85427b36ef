/-
Packets arrive as they were sent.

What a packet shows depends on its kind and its fields alone, and these are what its encoding
carries.  So whoever decodes the encoding of a sound packet gets a packet that shows the same.

* `Packet.fold_eq` — whatever is done to a packet of any kind is done to the record in it;
* `Packet.carried` — what the wire carries of a packet;
* `Packet.ofBlock_encoding`, `Packet.ofWire_encoding` — a sound packet is decoded from its
  encoding;
* `Packet.text_congr`, `Packet.toJson_congr` — packets with the same fields look the same.
-/
import NamedData.Proofs.Normalisation

namespace NamedData

namespace Kind

section

variable {k : Kind} (x : k.recordType.Fields)

theorem text_bare : Form.text? (Usage.bare x) = Form.text? x := by cases k <;> rfl

theorem name_bare : Form.name? (Usage.bare x) = Form.name? x := by cases k <;> rfl

theorem members_bare : Form.members (Usage.bare x) = Form.members x := by cases k <;> rfl

theorem bare_bare : Usage.bare (Usage.bare x) = Usage.bare x := by cases k <;> rfl

end

end Kind

namespace Packet

theorem fold_eq {β : Type} (f : {α : Type} → [Record α] → [Form α] → Cached α → β) (p : Packet) :
    p.fold f = f p.content.2 := by
  cases p <;> rfl

/-- The kind of the packet and its fields, rounded to what the wire carries. -/
def carried (p : Packet) : (k : Kind) × k.recordType.Fields :=
  ⟨p.content.1, Usage.onWire (Usage.bare p.content.2.fields)⟩

theorem carried_eq_plain {p : Packet} (h : p.kind.isStatus = false) : p.carried = p.plain := by
  rw [kind_eq] at h
  rw [carried, plain, Kind.onWire_eq_self h]

section

variable {p q : Packet}

/-- Packets with the same fields hold records of the same kind. -/
theorem exists_content_of_plain_eq (h : p.plain = q.plain) :
    ∃ (k : Kind) (c d : Cached k.recordType.Fields), p.content = ⟨k, c⟩ ∧ q.content = ⟨k, d⟩ ∧
      Record.SameFields c.fields d.fields := by
  rw [plain, plain] at h
  generalize p.content = x, q.content = y at h ⊢
  obtain ⟨k, c⟩ := x
  obtain ⟨k', d⟩ := y
  injection h with kind fields
  cases kind
  exact ⟨k, c, d, rfl, rfl, eq_of_heq fields⟩

/-- Packets with the same fields and the same encoding have the same text. -/
theorem text_congr (fields : p.plain = q.plain) (wire : p.encoding.wire = q.encoding.wire) :
    p.text = q.text := by
  obtain ⟨k, c, d, hp, hq, same⟩ := exists_content_of_plain_eq fields
  rw [encoding_eq, encoding_eq, hp, hq] at wire
  have size : c.encoding.size = d.encoding.size := congrArg List.length wire
  have text : Form.text? c.fields = Form.text? d.fields := by
    rw [← Kind.text_bare, same, Kind.text_bare]
  have name : Form.name? c.fields = Form.name? d.fields := by
    rw [← Kind.name_bare, same, Kind.name_bare]
  rw [Packet.text, Packet.text, fold_eq, fold_eq, hp, hq]
  simp only [size, text, name]

/-- Packets with the same fields have the same JSON form. -/
theorem toJson_congr (fields : p.plain = q.plain) : p.toJson = q.toJson := by
  obtain ⟨k, c, d, hp, hq, same⟩ := exists_content_of_plain_eq fields
  have members : Form.members c.fields = Form.members d.fields := by
    rw [← Kind.members_bare, same, Kind.members_bare]
  rw [toJson, toJson, fold_eq, fold_eq, hp, hq]
  simp only [members]

end

section

variable {p : Packet} {provenance : Provenance} {schema : SchemaVersion}

theorem wellFormed_encoding (sound : p.content.2.Sound provenance) : p.encoding.WellFormed := by
  rw [encoding_eq]
  exact sound.encoding.wellFormed

/-- A sound packet is decoded from its encoding, under each schema that knows its kind. -/
theorem ofBlock_encoding (sound : p.content.2.Sound provenance) (fits : p.Fits)
    (known : kindUnder? schema p.kind.type = some p.kind) :
    ∃ q, ofBlock schema (Block.ofElement p.encoding.element) = .ok q ∧ q.plain = p.carried ∧
      q.encoding.wire = p.encoding.wire := by
  have encodes := sound.encoding
  have readsBack := encodes.readsBack fits
  have type := readsBack.type_eq
  obtain ⟨c, hc, fields, -⟩ := readsBack
  rw [← Record.ofBlock_ofElement encodes.wellFormed] at hc
  obtain ⟨q, hq, content⟩ := ofBlockAs_of_ofBlock hc
  obtain ⟨-, b, parsed, -, kept⟩ := Record.ofBlock_eq_ok_iff.mp hc
  obtain ⟨es, -, rfl⟩ := (Block.parse_eq_ok_iff (Block.wellFormed_ofElement
    encodes.wellFormed.element)).mp parsed
  rw [Kind.kind_recordType] at type
  rw [kind_eq] at known
  refine ⟨q, ?_, ?_, ?_⟩
  · rw [encoding_eq]
    refine ofBlock_eq_ok_iff.mpr ⟨p.content.1, ?_, hq⟩
    exact (congrArg (kindUnder? schema) type).trans known
  · rw [plain, carried, content, fields]
  · rw [encoding_eq q, content, Cached.encoding, kept, encoding_eq]
    rfl

theorem ofWire_encoding (sound : p.content.2.Sound provenance) (fits : p.Fits)
    (known : kindUnder? schema p.kind.type = some p.kind) :
    ∃ q, ofWire schema p.encoding.wire = .ok q ∧ q.plain = p.carried ∧
      q.encoding.wire = p.encoding.wire := by
  obtain ⟨q, decoded, fields, wire⟩ := ofBlock_encoding sound fits known
  have whole : Block.decode p.encoding.wire = .ok (Block.ofElement p.encoding.element) :=
    Block.decode_eq_ok_iff.mpr ⟨(wellFormed_encoding sound).element, rfl, rfl⟩
  exact ⟨q, ofWire_eq_ok_iff.mpr ⟨_, whole, decoded⟩, fields, wire⟩

end

end Packet

end NamedData
