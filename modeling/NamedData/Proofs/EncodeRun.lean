/-
A packet that was asked for is decoded as it was asked for.

A packet is built from a request by changes to a new record, so it is sound, its encoding is one
whole element, and the dump that is written, raw or as a line of hexadecimal text, is framed as this
element.  Neither schema refuses the four kinds that can be asked for.

* `EncodeRequest.requested` — the kind and the fields that a request asks for;
* `EncodeRequest.plain_build` — the packet that is built has them;
* `decodeDump_encodeOutput` — and so has the packet that is decoded from what is written.
-/
import NamedData.Proofs.DecodeRun
import NamedData.Proofs.Delivery
import NamedData.Proofs.HexText

namespace NamedData.Inspect

section

variable {α ε : Type} [Record α] [Editable α ε] [Usage α ε] [Invariant α] [LawfulRecord α ε]
  {provenance : Provenance}

theorem sound_applyAll {changes : List ε} {c : Cached α} (h : c.Sound provenance)
    (allowed : ∀ change ∈ changes, Usage.Allowed α provenance change) :
    (applyAll c changes).Sound provenance := by
  -- one change after another, each of which keeps the record sound
  induction changes generalizing c with
  | nil => exact h
  | cons change changes ih =>
    have first := LawfulRecord.sound_apply (allowed change List.mem_cons_self) h
    exact ih first fun other hother => allowed other (List.mem_cons_of_mem change hother)

/-- A record made by a constructor and then changed is sound. -/
theorem sound_applyAll_constructed {changes : List ε} {x : α} (h : Usage.Constructed x)
    (allowed : ∀ change ∈ changes, Usage.Allowed α provenance change) :
    (applyAll { fields := x } changes).Sound provenance :=
  sound_applyAll (Cached.sound_of_unencoded (LawfulRecord.valid_constructed h) rfl) allowed

end

namespace EncodeRequest

/-- The kind and the fields that are asked for: what is given, and the kind's default where nothing
is.  An announcement without a nonce gets the one that was drawn. -/
def requested (draw : UInt32) : EncodeRequest → (k : Kind) × k.recordType.Fields
  | .announcement name timeoutMillis nonce =>
    ⟨.announcement,
      (⟨name, some (nonce.getD draw), Duration.ofMillis (timeoutMillis.getD 4000)⟩ : Announcement)⟩
  | .hint name scope nodeId interested availability =>
    ⟨.hint, (⟨name, scope.getD 2, { fields := ⟨nodeId, interested, availability⟩ }⟩ : Hint)⟩
  | .vicinity name scope => ⟨.vicinity, (⟨name, scope.getD 2⟩ : Vicinity)⟩
  | .vicinityData name nodeId => ⟨.vicinityData, (⟨name, nodeId⟩ : VicinityData)⟩

variable (request : EncodeRequest) (draw : UInt32)

/-- The packet that is built has the fields that are asked for. -/
theorem plain_build : (request.build draw).plain = request.requested draw := by
  cases request with
  | announcement name timeoutMillis nonce =>
    cases timeoutMillis with
    | none => cases nonce <;> rfl
    | some ms =>
      -- a lifetime that is given in milliseconds is not cut
      have whole : (Duration.ofMillis ms).wholeMillis = Duration.ofMillis ms :=
        Duration.wholeMillis_ofMillis ms
      have fields (n : UInt32) : Announcement.mk name (some n) (Duration.ofMillis ms).wholeMillis =
          ⟨name, some n, Duration.ofMillis ms⟩ := by rw [whole]
      cases nonce with
      | none => exact congrArg (Sigma.mk Kind.announcement) (fields draw)
      | some n => exact congrArg (Sigma.mk Kind.announcement) (fields n)
  | hint name scope nodeId interested availability => cases scope <;> rfl
  | vicinity name scope => cases scope <;> rfl
  | vicinityData name nodeId => rfl

theorem sound_build : (request.build draw).content.2.Sound .built := by
  cases request with
  | announcement name timeoutMillis nonce =>
    exact sound_applyAll_constructed (.inr ⟨name, draw, none, rfl⟩) fun _ _ => trivial
  | hint name scope nodeId interested availability =>
    have allowed : ∀ change ∈ (scope.map Hint.Edit.setScope).toList ++
        [.inSelectors (.setNodeId nodeId), .inSelectors (.setInterested interested),
          .inSelectors (.setAvailability availability)], Usage.Allowed Hint .built change := by
      cases scope <;> simp [Usage.Allowed]
    exact sound_applyAll_constructed ⟨name, defaultHintScope, rfl⟩ allowed
  | vicinity name scope =>
    exact sound_applyAll_constructed ⟨name, Vicinity.defaultScope, rfl⟩ fun _ _ => trivial
  | vicinityData name nodeId =>
    exact sound_applyAll_constructed ⟨name, none, rfl⟩ fun _ _ => trivial

/-- Every kind that can be asked for is known under both schemas, and none is a status record. -/
theorem kind_build (schema : SchemaVersion) :
    Packet.kindUnder? schema (request.build draw).kind.type = some (request.build draw).kind ∧
      (request.build draw).kind.isStatus = false := by
  cases request <;> cases schema <;> exact ⟨rfl, rfl⟩

end EncodeRequest

/-! ### Dumps of one element -/

theorem dumpBytes_encodeOutput (hex : Bool) (p : Packet) :
    dumpBytes hex (encodeOutput hex p) = .ok p.encoding.wire := by
  cases hex with
  | false => rfl
  | true =>
    rw [dumpBytes, if_pos rfl, encodeOutput, if_pos rfl]
    exact Dump.ofHexText_line p.encoding.wire

/-- What becomes of a dump that is a single packet. -/
theorem decodeDump_of_packet {schema : SchemaVersion} {hex json : Bool} {data : Bytes}
    {e : Element} {p : Packet} (bytes : dumpBytes hex data = .ok e.wire)
    (frames : Dump.frames e.wire = .ok [(0, e)])
    (decoded : Packet.ofBlock schema (Block.ofElement e) = .ok p) :
    decodeDump ⟨schema, hex⟩ json data = .ok { decoded := 1, output := printed json 0 p } := by
  have single : decodeFrames schema json [(0, e)] =
      { decoded := 1, output := printed json 0 p } := by
    rw [decodeFrames, decodeElement, decoded]
    simp [decodeFrames, DecodeReport.append]
  rw [decodeDump, bytes, ok_bind, frames, ok_bind, single]
  rfl

theorem printed_text (p : Packet) : printed false 0 p = "[0] " ++ p.text ++ "\n" := by
  have zero : Text.natText 0 = "0" := by
    rw [Text.natText, Text.decimal]
    rfl
  rw [printed, zero]
  rfl

/-- What is written for a request, raw or as hexadecimal text, is decoded under either schema as one
packet and nothing else.  That packet equals the one that was built, both have the fields that were
asked for, and what is printed is the text, or the JSON form, of the packet that was built. -/
theorem decodeDump_encodeOutput (request : EncodeRequest) (draw : UInt32) (hex : Bool)
    (schema : SchemaVersion) (fits : (request.build draw).Fits) :
    (request.build draw).plain = request.requested draw ∧
      (∃ e q, dumpBytes hex (encodeOutput hex (request.build draw)) = .ok e.wire ∧
        Dump.frames e.wire = .ok [(0, e)] ∧
        Packet.ofBlock schema (Block.ofElement e) = .ok q ∧
        (q == request.build draw) = true ∧ q.plain = request.requested draw) ∧
      decodeDump ⟨schema, hex⟩ false (encodeOutput hex (request.build draw)) =
        .ok { decoded := 1, failed := 0, output := "[0] " ++ (request.build draw).text ++ "\n" } ∧
      decodeDump ⟨schema, hex⟩ true (encodeOutput hex (request.build draw)) =
        .ok { decoded := 1, failed := 0, output := (request.build draw).jsonText ++ "\n" } := by
  have asked := request.plain_build draw
  have sound := request.sound_build draw
  obtain ⟨known, unrounded⟩ := request.kind_build draw schema
  obtain ⟨q, decoded, fields, wire⟩ := Packet.ofBlock_encoding sound fits known
  rw [Packet.carried_eq_plain unrounded] at fields
  have bytes := dumpBytes_encodeOutput hex (request.build draw)
  have frames := Dump.frames_wire (Packet.wellFormed_encoding sound).element
  have text := Packet.text_congr fields wire
  have json : q.jsonText = (request.build draw).jsonText :=
    congrArg Json.text (Packet.toJson_congr fields)
  have kind : q.kind = (request.build draw).kind := by
    rw [Packet.kind_eq, Packet.kind_eq]
    show q.plain.1 = _
    rw [fields]
    rfl
  refine ⟨asked, ⟨_, q, bytes, frames, decoded, ?_, fields.trans asked⟩, ?_, ?_⟩
  · show (q.kind == (request.build draw).kind &&
      q.encoding.wire == (request.build draw).encoding.wire) = true
    rw [kind, wire]
    simp
  · rw [decodeDump_of_packet bytes frames decoded, printed_text, text]
  · rw [decodeDump_of_packet bytes frames decoded, printed, if_pos rfl, json]

/-- An announcement whose lifetime is given and is the default, and whose nonce is not given. -/
theorem decodeDump_encodeOutput_announcement :
    let request := EncodeRequest.announcement ⟨[⟨[46]⟩, ⟨[]⟩]⟩ (some 4000) none
    ∃ q, (q == request.build 7) = true ∧
      q.plain = ⟨.announcement,
        (⟨⟨[⟨[46]⟩, ⟨[]⟩]⟩, some 7, Duration.ofMillis 4000⟩ : Announcement)⟩ ∧
      decodeDump ⟨.legacy, true⟩ false (encodeOutput true (request.build 7)) =
        .ok { decoded := 1, failed := 0, output := "[0] " ++ (request.build 7).text ++ "\n" } := by
  intro request
  have fits : (request.build 7).Fits := ⟨by decide, trivial⟩
  obtain ⟨-, ⟨_, q, -, -, -, equal, fields⟩, report, -⟩ :=
    decodeDump_encodeOutput request 7 true .legacy fits
  exact ⟨q, equal, fields, report⟩

end NamedData.Inspect
