/-
Packets come back from their JSON text.

The text shows the kind and the fields of a packet and nothing else, so what is read from it is the
packet with its fields alone: no encoding of its own or of the selectors in it, and nothing noted
beside it.  It is encoded afresh then.  Whether this gives the bytes that the packet had depends on
where these came from: bytes that were decoded need not be what the fields would be written as,
while all others are.

* `Packet.unencoded` — a packet with its fields alone;
* `Held.Undecoded` — no decoded bytes are left in a record;
* `Packet.ofJsonText_jsonText` — the JSON text of a packet is read back as its fields.
-/
import NamedData.Proofs.JsonForm
import NamedData.Proofs.Delivery
import NamedData.Proofs.Dispatch
import NamedData.Proofs.Equality

namespace NamedData

/-! ### Records without decoded bytes -/

/-- No decoded bytes are left in the record: there was a time when it kept no encoding, neither its
own nor one of a record inside it, and nothing that was decoded has been put into it since. -/
def Held.Undecoded {α ε : Type} [Record α] [Form α] [Editable α ε] [Usage α ε] (h : Held α) :
    Prop :=
  ∃ (first : Held α) (ops : List (Operation ε)), first.Reachable .received ∧ first.wire? = none ∧
    Usage.bare first.fields = first.fields ∧ (∀ op ∈ ops, op.Allowed (α := α) .built) ∧
      ((Session.start first).run ops).2.current = h

namespace Kind

section

variable {k : Kind}

/-- Only what records inside it keep tells built fields from received ones. -/
theorem valid_built {x : k.recordType.Fields} (valid : Invariant.Valid .received x)
    (bare : Usage.bare x = x) : Invariant.Valid .built x := by
  cases k with
  | hint => exact Nesting.valid_of_bare (α := Hint) bare trivial
  | legacyHint =>
    have received : Cached.Sound .received x.selectors := valid
    exact Nesting.valid_of_bare (α := LegacyHint) bare received.valid
  | _ => exact valid

theorem sound_of_undecoded {h : Held k.recordType.Fields} (undecoded : h.Undecoded) :
    h.Sound .built := by
  obtain ⟨first, ops, reachable, unencoded, bare, allowed, rfl⟩ := undecoded
  have start := Cached.sound_of_unencoded (valid_built reachable.sound.valid bare) unencoded
  exact (Session.sound_run (Session.sound_start start) allowed).current

end

end Kind

/-! ### Packets -/

namespace Packet

/-- The packet with its fields alone: nothing in it has an encoding, and nothing is noted beside
it. -/
def unencoded (p : Packet) : Packet :=
  ofHeld p.content.1 (Held.ofFields (Usage.bare p.content.2.fields))

theorem content_unencoded (p : Packet) :
    p.unencoded.content = ⟨p.content.1, { fields := Usage.bare p.content.2.fields }⟩ :=
  content_ofHeld _ _

theorem localControl_unencoded (p : Packet) : p.unencoded.held.localControl = {} := by
  cases p <;> rfl

theorem plain_unencoded (p : Packet) : p.unencoded.plain = p.plain := by
  rw [plain, plain, content_unencoded]
  simp only [Kind.bare_bare]

theorem ofJsonAs?_eq_some {k : Kind} {j : Json} {x : k.recordType.Fields}
    (h : Form.ofJson? j = some x) : ofJsonAs? j k = some (ofHeld k (Held.ofFields x)) := by
  have fresh : fresh? j = some { fields := x } := by rw [fresh?, h, Option.map_some]
  cases k <;> exact Option.map_eq_some_iff.mpr ⟨_, fresh, rfl⟩

/-- The JSON form of a packet is read back as the fields of the packet. -/
theorem ofJson?_toJson {p : Packet} {provenance : Provenance}
    (sound : p.content.2.Sound provenance) : ofJson? p.toJson = some p.unencoded := by
  have form := LawfulForm.ofJson?_toJson sound.valid
  have tagged := tagged?_object p.content.1.tag (LawfulForm.untagged p.content.2.fields)
  rw [toJson, fold_eq, Kind.kind_recordType, ofJson?, tagged]
  show (Kind.all.find? fun kind => kind.tag = p.content.1.tag).bind _ = _
  rw [Kind.find?_tag]
  exact ofJsonAs?_eq_some form

theorem readable_toJson (p : Packet) : p.toJson.Readable 6 := by
  rw [toJson, fold_eq]
  exact .object (List.forall_mem_cons.mpr ⟨.string _, LawfulForm.readable_members _⟩)

theorem ofJsonText?_of_sound {p : Packet} {provenance : Provenance}
    (sound : p.content.2.Sound provenance) : ofJsonText? p.jsonText = some p.unencoded := by
  have text := Json.parse?_text p.readable_toJson (by decide)
  rw [ofJsonText?, jsonText, text]
  exact ofJson?_toJson sound

/-- The JSON text of every packet that a program can hold is read back as a packet of the same kind
with the same fields. It has no encoding and nothing noted beside it, and its encoding is the one
that a fresh packet with these fields would get, selectors included. That is the encoding of the
packet itself unless decoded bytes are left in it. -/
theorem ofJsonText_jsonText {p : Packet} (reachable : p.held.Reachable .received) :
    ∃ q, ofJsonText? p.jsonText = some q ∧ q.kind = p.kind ∧ q.plain = p.plain ∧
      q.content = ⟨p.content.1, { fields := Usage.bare p.content.2.fields }⟩ ∧
      q.held.localControl = {} ∧
      q.encoding = Record.encodeFresh (Usage.bare p.content.2.fields) ∧
      (p.held.Undecoded → p.Fits → q.encoding = p.encoding) := by
  have sound := reachable.sound
  rw [toCached_held] at sound
  have encoding : p.unencoded.encoding = Record.encodeFresh (Usage.bare p.content.2.fields) := by
    rw [encoding_eq, content_unencoded]
    rfl
  refine ⟨p.unencoded, ofJsonText?_of_sound sound, ?_, p.plain_unencoded, p.content_unencoded,
    p.localControl_unencoded, encoding, ?_⟩
  · rw [kind_eq, kind_eq, content_unencoded]
  · intro undecoded fits
    have built := Kind.sound_of_undecoded undecoded
    rw [toCached_held] at built
    rw [encoding, encoding_eq p, Held.encoding_of_built built fits]

/-- Selectors that are decoded from bytes with an unknown child, then given a scope and encoded
again. -/
theorem ofJsonText_jsonText_strategySelectors :
    let wire : Block := ⟨⟨205, [205, 3], [99, 1, 0]⟩, some [⟨99, [99, 1], [0]⟩]⟩
    let decoded : Held StrategySelectors := { fields := {}, wire? := some wire }
    let s := ((Session.start decoded).run [.edit (StrategySelectors.Edit.setScope (some 3)),
      .encode]).2.current
    let p := Packet.strategySelectors s.toCached
    ∃ q, ofJsonText? p.jsonText = some q ∧ q.plain = p.plain ∧ q.encoding = p.encoding ∧
      q.encoding.wire = [205, 3, 212, 1, 3] := by
  intro wire decoded s p
  have child : Element.WellFormed ⟨99, [99, 1], [0]⟩ := ⟨1, rfl, rfl⟩
  have split : Element.split [99, 1, 0] = .ok [⟨99, [99, 1], [0]⟩] :=
    Element.split_eq_ok_iff.mpr ⟨List.forall_mem_singleton.mpr child, rfl⟩
  have parsed : (Block.ofElement wire.element).parse = .ok wire := map_eq_ok.mpr ⟨_, split, rfl⟩
  have wellFormed : (Block.ofElement wire.element).WellFormed :=
    Block.wellFormed_ofElement ⟨3, rfl, rfl⟩
  have obtained : decoded.Obtained .received :=
    .ofBlock wellFormed (Record.ofBlock_eq_ok_iff.mpr ⟨rfl, wire, parsed, rfl, rfl⟩)
  have edited : ((Session.start decoded).run
      [.edit (StrategySelectors.Edit.setScope (some 3))]).2.current.Reachable .received :=
    ⟨decoded, _, obtained, by simp [Operation.Allowed, Usage.Allowed], rfl⟩
  have reachable : s.Reachable .received :=
    ⟨decoded, _, obtained, by simp [Operation.Allowed, Usage.Allowed], rfl⟩
  have undecoded : s.Undecoded :=
    ⟨_, [.encode], edited, rfl, rfl, by simp [Operation.Allowed], rfl⟩
  obtain ⟨q, read, -, fields, -, -, -, encoding⟩ :=
    ofJsonText_jsonText (p := p) reachable
  have same := encoding undecoded ⟨by decide, trivial⟩
  refine ⟨q, read, fields, same, ?_⟩
  rw [same]
  decide +kernel

end Packet

end NamedData
