/-
Records survive encoding and decoding.

The round trip is proved for each kind where its laws are, from the fields to the children that
they are written to and back.  Here it is stated of the records that a program can hold: encoding
one of them succeeds, so that the empty block is never put in its place, and decoding gives back
every field.

* `encode_then_decode` — the round trip of all nine kinds of packets and selectors, and what
  becomes of a lifetime that is no whole number of milliseconds;
* `encode_then_decode_status` — the round trip of the two status records, whose lengths of time
  and points in time come back as the wire carries them.
-/
import NamedData.Proofs.Coherence

namespace NamedData

namespace Duration

/-- The length of time that is kept: whole milliseconds, and no more of them than 64 bits count. -/
theorem nanoseconds_wholeMillis (d : Duration) :
    d.wholeMillis.nanoseconds = min (d.nanoseconds / 10 ^ 6) (2 ^ 64 - 1) * 10 ^ 6 := by
  have fits : min d.millis (2 ^ 64 - 1) < 2 ^ 64 := by omega
  have word : d.wireMillis.toNat = min d.millis (2 ^ 64 - 1) := by
    rw [wireMillis, UInt64.toNat_ofNat', Nat.mod_eq_of_lt fits]
  show d.wireMillis.toNat * 10 ^ 6 = _
  rw [word, millis]

end Duration

namespace Timestamp

/-- The point in time that arrives when one is sent: the whole milliseconds, rounded down, and
none before 1970. -/
structure ArrivesAs (sent received : Timestamp) : Prop where
  millis : received.millis = max sent.millis 0
  whole : received.nanoseconds % 10 ^ 6 = 0
  noLeapSecond : received.inLeapSecond = false

theorem arrivesAs_wholeMillis {t : Timestamp} (h : t.inLeapSecond = false) :
    t.ArrivesAs t.wholeMillis := by
  have bound := nanoseconds_lt h
  by_cases early : t.seconds < 0
  · have past : t.millis < 0 := by
      rw [millis]
      omega
    rw [wholeMillis_of_neg early]
    exact ⟨by rw [Int.max_eq_right (by omega)]; rfl, rfl, rfl⟩
  · have whole := nanoseconds_wholeMillis early
    refine ⟨?_, by omega, ?_⟩
    · have same : t.wholeMillis.millis = t.millis := by
        rw [millis, millis, seconds_wholeMillis early, whole, Nat.mul_div_cancel _ (by decide)]
      have late : 0 ≤ t.millis := by
        rw [millis]
        omega
      rw [same, Int.max_eq_left late]
    · rw [inLeapSecond, decide_eq_false_iff_not]
      omega

end Timestamp

namespace Record

/-- Encoding a packet or selectors that a program can hold succeeds with a block of the right type,
split into its children, and decoding the block gives back every field.  The lifetime that an
announcement has in this is the one it was given, cut to whole milliseconds. -/
theorem encode_then_decode :
    (∀ (k : Kind) (h : Held k.recordType.Fields), k.isStatus = false → h.Reachable .received →
      Fits h.fields → ∃ b, encodeFresh? h.fields = .ok b ∧ encodeFresh h.fields = b ∧
        b.isParsed = true ∧ b.type = k.type ∧
        ∃ c : Cached k.recordType.Fields, Cached.ofBlock b = .ok c ∧
          SameFields c.fields h.fields) ∧
    (∀ (name : Name) (nonce : UInt32) (d : Duration),
      (Announcement.create name nonce (some d)).timeout.nanoseconds =
        min (d.nanoseconds / 10 ^ 6) (2 ^ 64 - 1) * 10 ^ 6) ∧
    ∀ (c : Cached Announcement) (d : Duration),
      (Editable.apply (Announcement.Edit.setTimeout d) c).fields.timeout.nanoseconds =
        min (d.nanoseconds / 10 ^ 6) (2 ^ 64 - 1) * 10 ^ 6 := by
  refine ⟨?_, fun _ _ d => d.nanoseconds_wholeMillis, fun _ d => d.nanoseconds_wholeMillis⟩
  intro k h unrounded reachable fits
  have sound := reachable.sound
  have readsBack := readsBack_encodeFresh sound.valid fits
  have type := readsBack.type_eq
  rw [k.kind_recordType] at type
  obtain ⟨c, hc, fields, -⟩ := readsBack
  refine ⟨encodeFresh h.fields, encodeFresh?_eq_ok sound.valid fits, rfl,
    (wellFormed_encodeFresh h.fields).2, type, c, hc, ?_⟩
  rw [SameFields, fields, Kind.onWire_eq_self unrounded]

/-- Selectors of the older schema whose filter lists a component and an open range after it. -/
theorem encode_then_decode_legacySelectors :
    let s : LegacyReplicationSelectors :=
      { exclude := Exclude.excludeAny (Exclude.excludeOne {} ⟨[97]⟩), mustBeFresh := true }
    ∃ b, encodeFresh? s = .ok b ∧ b.type = 208 ∧
      ∃ c : Cached LegacyReplicationSelectors, Cached.ofBlock b = .ok c ∧ c.fields = s := by
  intro s
  have allowed : ∀ op ∈ [Operation.edit (LegacyReplicationSelectors.Edit.setExclude s.exclude),
      .edit (.setMustBeFresh true)],
      op.Allowed (α := LegacyReplicationSelectors) .received := by
    have built : s.exclude.Built := .excludeAny (.excludeOne .empty _)
    simp [Operation.Allowed, Usage.Allowed, built]
  have reachable : (Held.ofFields s).Reachable .received :=
    ⟨Held.ofFields {}, _, .constructed rfl, allowed, rfl⟩
  have fits : Fits s := ⟨by decide, trivial⟩
  obtain ⟨b, hb, -, -, type, c, hc, same⟩ :=
    encode_then_decode.1 .legacyReplicationSelectors (Held.ofFields s) rfl reachable fits
  exact ⟨b, hb, type, c, hc, same⟩

section

variable {α ε : Type} [Record α] [Form α] [Editable α ε] [Usage α ε] [Invariant α]
  [LawfulRecord α ε]

theorem encode_then_decode_onWire {h : Held α} (reachable : h.Reachable .received)
    (fits : Fits h.fields) : ∃ b, encodeFresh? h.fields = .ok b ∧
      ∃ c : Cached α, Cached.ofBlock b = .ok c ∧
        Usage.bare c.fields = Usage.onWire (Usage.bare h.fields) := by
  have valid := reachable.sound.valid
  obtain ⟨c, hc, fields, -⟩ := readsBack_encodeFresh valid fits
  exact ⟨encodeFresh h.fields, encodeFresh?_eq_ok valid fits, c, hc, fields⟩

end

/-- Encoding a status record that a program can hold succeeds, and decoding the block gives back
every field. Only times are cut: a length of time to whole milliseconds, and no more of them than 64
bits count, and a point in time to the millisecond below it, and to the beginning of 1970 if it lies
before. -/
theorem encode_then_decode_status :
    (∀ h : Held FaceStatus, h.Reachable .received → Fits h.fields →
      ∃ b, encodeFresh? h.fields = .ok b ∧ ∃ c : Cached FaceStatus, Cached.ofBlock b = .ok c ∧
        ∃ period, c.fields = { h.fields with expirationPeriod := period } ∧
          period.map Duration.nanoseconds = h.fields.expirationPeriod.map fun d =>
            min (d.nanoseconds / 10 ^ 6) (2 ^ 64 - 1) * 10 ^ 6) ∧
    ∀ h : Held ForwarderStatus, h.Reachable .received → Fits h.fields →
      ∃ b, encodeFresh? h.fields = .ok b ∧
        ∃ c : Cached ForwarderStatus, Cached.ofBlock b = .ok c ∧
          ∃ start current,
            c.fields = { h.fields with startTimestamp := start, currentTimestamp := current } ∧
              h.fields.startTimestamp.ArrivesAs start ∧
              h.fields.currentTimestamp.ArrivesAs current := by
  constructor
  · intro h reachable fits
    obtain ⟨b, encoded, c, hc, fields⟩ := encode_then_decode_onWire reachable fits
    refine ⟨b, encoded, c, hc, _, fields, ?_⟩
    rw [Option.map_map]
    exact congrArg (fun f => h.fields.expirationPeriod.map f)
      (funext Duration.nanoseconds_wholeMillis)
  · intro h reachable fits
    obtain ⟨start, current⟩ := reachable.sound.valid
    obtain ⟨b, encoded, c, hc, fields⟩ := encode_then_decode_onWire reachable fits
    exact ⟨b, encoded, c, hc, _, _, fields, Timestamp.arrivesAs_wholeMillis start,
      Timestamp.arrivesAs_wholeMillis current⟩

/-- A face that expires in a millisecond and a half, and a forwarder that started half a millisecond
before 1970. -/
theorem encode_then_decode_status_rounded :
    let face : FaceStatus :=
      { remoteUri := "é", expirationPeriod := some ⟨1500000, by decide⟩, inBytes := 256 }
    let start : Timestamp := ⟨-1, 999500000, by decide, by decide, by decide⟩
    let forwarder : ForwarderStatus := { startTimestamp := start, csEntries := 3 }
    (∃ b, encodeFresh? face = .ok b ∧ ∃ c : Cached FaceStatus, Cached.ofBlock b = .ok c ∧
      c.fields.expirationPeriod.map Duration.nanoseconds = some 1000000 ∧
      c.fields.remoteUri = "é" ∧ c.fields.inBytes = 256) ∧
    ∃ b, encodeFresh? forwarder = .ok b ∧ ∃ c : Cached ForwarderStatus, Cached.ofBlock b = .ok c ∧
      c.fields.startTimestamp.millis = 0 ∧ c.fields.csEntries = 3 := by
  intro face start forwarder
  constructor
  · have reachable : (Held.ofFields face).Reachable .received := by
      refine ⟨Held.ofFields {}, [.edit (.setRemoteUri "é"),
        .edit (.setExpirationPeriod face.expirationPeriod), .edit (.setInBytes 256)],
        .constructed rfl, ?_, rfl⟩
      simp [Operation.Allowed, Usage.Allowed]
    have fits : Fits face := ⟨by decide, trivial⟩
    obtain ⟨b, encoded, c, hc, period, fields, rounded⟩ :=
      encode_then_decode_status.1 (Held.ofFields face) reachable fits
    refine ⟨b, encoded, c, hc, ?_, ?_, ?_⟩
    · rw [fields]
      exact rounded
    · rw [fields]
      rfl
    · rw [fields]
      rfl
  · have reachable : (Held.ofFields forwarder).Reachable .received := by
      refine ⟨Held.ofFields {}, [.edit (.setStartTimestamp start), .edit (.setCsEntries 3)],
        .constructed rfl, ?_, rfl⟩
      simp [Operation.Allowed, Usage.Allowed, Timestamp.inLeapSecond, start]
    have fits : Fits forwarder := ⟨by decide, trivial⟩
    obtain ⟨b, encoded, c, hc, first, current, fields, arrives, -⟩ :=
      encode_then_decode_status.2 (Held.ofFields forwarder) reachable fits
    refine ⟨b, encoded, c, hc, ?_, ?_⟩
    · have past : max start.millis 0 = 0 := by decide
      rw [fields]
      exact arrives.millis.trans past
    · rw [fields]
      rfl

end Record

end NamedData
