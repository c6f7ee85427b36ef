/-
What is read from JSON text need not be something that the decoder takes back.

Reading a packet from JSON fills its fields with whatever the text says.  Constructors and changes
are more careful: they cut a lifetime to whole milliseconds and never put two open ranges next to
one another.  Where the text keeps to this, the encoding of the packet that is read from it decodes
to the same fields; where it does not, the encoding is refused or decodes to other fields.

A point in time may be read that lies in a leap second.  It travels as a count of milliseconds,
which knows no leap seconds, so it arrives a second later on the clock.  Only the leap second after
the last second that can be held does not arrive at all.

* `Timestamp.counted` — where on the clock a count of milliseconds puts a point in time;
* `Packet.exists_of_ofJsonText?` — a packet that was read is its fields and nothing else;
* `Packet.ofWire_of_ofJsonText` — which packets that were read survive encoding and decoding.
-/
import NamedData.Proofs.JsonRoundTrip
import NamedData.Proofs.RoundTrip

namespace NamedData

/-! ### Leap seconds -/

namespace Timestamp

variable (t : Timestamp)

/-- The point in time as it is counted in milliseconds: one in a leap second lies in the second
after it, if that can be held. -/
def counted : Timestamp :=
  if t.inLeapSecond then (ofUnix? (t.seconds + 1) (t.nanoseconds - 10 ^ 9)).getD t else t

theorem counted_of_noLeap {t : Timestamp} (h : t.inLeapSecond = false) : t.counted = t := by
  rw [counted, if_neg (by simp [h])]

/-- Either the second after a leap second cannot be held, or the point in time lies in it. -/
theorem counted_cases (leap : t.inLeapSecond = true) :
    (t.seconds = 8210266876799 ∧ t.counted = t) ∨
      (t.counted.seconds = t.seconds + 1 ∧ t.counted.nanoseconds = t.nanoseconds - 10 ^ 9) := by
  have lower := t.lower
  have upper := t.upper
  have subsecond := t.subsecond
  rw [counted, if_pos leap]
  by_cases last : t.seconds = 8210266876799
  · refine .inl ⟨last, ?_⟩
    rw [ofUnix?, dif_neg (by omega), Option.getD_none]
  · rw [ofUnix?, dif_pos (by omega)]
    exact .inr ⟨rfl, rfl⟩

theorem millis_counted : t.counted.millis = t.millis := by
  by_cases leap : t.inLeapSecond = true
  · have late : 10 ^ 9 ≤ t.nanoseconds := by simpa [inLeapSecond] using leap
    obtain ⟨-, same⟩ | ⟨seconds, nanoseconds⟩ := t.counted_cases leap
    · rw [same]
    · rw [millis, millis, seconds, nanoseconds]
      omega
  · rw [counted, if_neg leap]

theorem wireMillis_counted : t.counted.wireMillis = t.wireMillis := by
  rw [wireMillis, wireMillis, t.millis_counted]

theorem seconds_of_counted (h : t.counted.inLeapSecond = true) :
    t.counted.seconds = 8210266876799 := by
  by_cases leap : t.inLeapSecond = true
  · obtain ⟨last, same⟩ | ⟨-, nanoseconds⟩ := t.counted_cases leap
    · rw [same, last]
    · have subsecond := t.subsecond
      have late : 10 ^ 9 ≤ t.counted.nanoseconds := by simpa [inLeapSecond] using h
      omega
  · rw [counted_of_noLeap (by simpa using leap)] at h
    exact absurd h leap

theorem noLeap_of_wholeMillis_counted (h : t.counted.wholeMillis.inLeapSecond = false) :
    t.counted.inLeapSecond = false := by
  refine Bool.eq_false_iff.mpr fun leap => ?_
  have late : 10 ^ 9 ≤ t.counted.nanoseconds := by simpa [inLeapSecond] using leap
  have last := t.seconds_of_counted leap
  have whole := nanoseconds_wholeMillis (t := t.counted) (by omega)
  have early : t.counted.wholeMillis.nanoseconds < 10 ^ 9 := nanoseconds_lt h
  omega

end Timestamp

/-- The status with its points in time as they are counted in milliseconds. -/
def ForwarderStatus.counted (s : ForwarderStatus) : ForwarderStatus :=
  { s with
    startTimestamp := s.startTimestamp.counted
    currentTimestamp := s.currentTimestamp.counted }

/-- Only the count is written. -/
theorem ForwarderStatus.fields_counted (s : ForwarderStatus) :
    Record.fields s.counted = Record.fields s := by
  simp only [Record.fields, counted, Timestamp.wireMillis_counted]

namespace Kind

/-- The record with its points in time, if it has any, as they are counted in milliseconds. -/
def counted : (k : Kind) → k.recordType.Fields → k.recordType.Fields
  | .forwarderStatus => ForwarderStatus.counted
  | _ => id

theorem fields_counted (k : Kind) (x : k.recordType.Fields) :
    Record.fields (k.counted x) = Record.fields x := by
  cases k with
  | forwarderStatus =>
    exact ForwarderStatus.fields_counted x
  | _ => rfl

theorem encodeFresh_counted (k : Kind) (x : k.recordType.Fields) :
    Record.encodeFresh (k.counted x) = Record.encodeFresh x := by
  rw [Record.encodeFresh, Record.layout, fields_counted]
  rfl

theorem bare_counted (k : Kind) {x : k.recordType.Fields} (h : Usage.bare x = x) :
    Usage.bare (k.counted x) = k.counted x := by
  cases k with
  | forwarderStatus => rfl
  | _ => exact h

theorem fits_counted (k : Kind) {x : k.recordType.Fields} (h : Record.Fits x) :
    Record.Fits (k.counted x) := by
  cases k with
  | forwarderStatus =>
    refine ⟨?_, trivial⟩
    rw [Record.estimate, Record.layout, fields_counted]
    exact h.1
  | _ => exact h

end Kind

/-! ### Records that were read -/

theorem Hint.bare_of_ofJson? {j : Json} {h : Hint} (read : Form.ofJson? j = some h) :
    Usage.bare h = h := by
  simp only [Form.ofJson?, Option.bind_eq_bind, Option.bind_eq_some_iff] at read
  obtain ⟨fields, -, read⟩ := read
  split at read
  · simp only [Option.bind_eq_some_iff] at read
    obtain ⟨_, -, _, -, _, -, made⟩ := read
    cases made
    rfl
  · cases read

theorem LegacyHint.bare_of_ofJson? {j : Json} {h : LegacyHint} (read : Form.ofJson? j = some h) :
    Usage.bare h = h := by
  simp only [Form.ofJson?, Option.bind_eq_bind, Option.bind_eq_some_iff] at read
  obtain ⟨fields, -, read⟩ := read
  split at read
  · simp only [Option.bind_eq_some_iff] at read
    obtain ⟨_, -, _, -, _, -, _, -, made⟩ := read
    cases made
    rfl
  · cases read

namespace Kind

section

variable {k : Kind}

/-- A record inside a record that was read has no encoding. -/
theorem bare_of_ofJson? {j : Json} {x : k.recordType.Fields} (h : Form.ofJson? j = some x) :
    Usage.bare x = x := by
  cases k with
  | hint => exact Hint.bare_of_ofJson? h
  | legacyHint => exact LegacyHint.bare_of_ofJson? h
  | _ => rfl

/-- Fields that come back from the wire are such as changes would make them. -/
theorem valid_of_onWire_eq {x y : k.recordType.Fields} (unencoded : Usage.bare x = x)
    (valid : Invariant.Valid .received y) (same : Usage.bare y = Usage.onWire (k.counted x)) :
    Invariant.Valid .built (k.counted x) := by
  cases k with
  | announcement =>
    obtain rfl : y = x := same
    exact valid
  | hint => exact Nesting.valid_of_bare (α := Hint) unencoded trivial
  | legacyHint =>
    have received : Cached.Sound .received y.selectors := valid
    have bare : Usage.bare y = x := same
    have fields := congrArg (fun h : LegacyHint => h.selectors.fields) bare
    refine Nesting.valid_of_bare (α := LegacyHint) unencoded ?_
    show Invariant.Valid .built x.selectors.fields
    rw [← fields]
    exact received.valid
  | legacyReplicationSelectors =>
    obtain rfl : y = x := same
    exact valid
  | forwarderStatus =>
    obtain rfl : y = Usage.onWire (ForwarderStatus.counted x) := same
    obtain ⟨start, current⟩ := valid
    exact ⟨x.startTimestamp.noLeap_of_wholeMillis_counted start,
      x.currentTimestamp.noLeap_of_wholeMillis_counted current⟩
  | _ => trivial

end

end Kind

namespace Packet

theorem of_ofJsonAs? {k : Kind} {j : Json} {p : Packet} (h : ofJsonAs? j k = some p) :
    ∃ x : k.recordType.Fields, Form.ofJson? j = some x ∧ p = ofHeld k (Held.ofFields x) := by
  cases k <;>
  · obtain ⟨c, fresh, rfl⟩ := Option.map_eq_some_iff.mp h
    obtain ⟨x, hx, rfl⟩ := Option.map_eq_some_iff.mp fresh
    exact ⟨x, hx, rfl⟩

/-- A packet that was read from JSON text is its fields and nothing else. -/
theorem exists_of_ofJsonText? {s : String} {p : Packet} (h : ofJsonText? s = some p) :
    ∃ (k : Kind) (x : k.recordType.Fields), Usage.bare x = x ∧ p = ofHeld k (Held.ofFields x) := by
  obtain ⟨j, -, h⟩ := Option.bind_eq_some_iff.mp h
  obtain ⟨⟨tag, content⟩, -, h⟩ := Option.bind_eq_some_iff.mp h
  obtain ⟨k, -, h⟩ := Option.bind_eq_some_iff.mp h
  obtain ⟨x, hx, same⟩ := of_ofJsonAs? h
  exact ⟨k, x, Kind.bare_of_ofJson? hx, same⟩

/-- The packet with its points in time, if it has any, as they are counted in milliseconds. -/
def counted (p : Packet) : Packet :=
  ofHeld p.content.1 (Held.ofFields (p.content.1.counted p.content.2.fields))

theorem counted_ofHeld (k : Kind) (x : k.recordType.Fields) :
    (ofHeld k (Held.ofFields x)).counted = ofHeld k (Held.ofFields (k.counted x)) := by
  rw [counted, content_ofHeld]
  rfl

/-- A packet that was read from JSON text survives encoding and decoding, in that its encoding
decodes under the older schema to a packet of the same kind with the same fields, as far as the wire
carries these, exactly when its values are such as constructors and changes would make them. -/
theorem ofWire_of_ofJsonText {s : String} {p : Packet} (read : ofJsonText? s = some p)
    (fits : p.Fits) :
    (∃ q, ofWire .legacy p.encoding.wire = .ok q ∧ q.plain = p.counted.carried) ↔
      Invariant.Valid .built p.counted.content.2.fields := by
  obtain ⟨k, x, bare, rfl⟩ := exists_of_ofJsonText? read
  rw [counted_ofHeld]
  -- only the count of milliseconds is written, so both packets have one encoding
  have encoding : (ofHeld k (Held.ofFields (k.counted x))).encoding =
      (ofHeld k (Held.ofFields x)).encoding := by
    rw [encoding_eq, encoding_eq, content_ofHeld, content_ofHeld]
    exact k.encodeFresh_counted x
  constructor
  · rintro ⟨q, decoded, fields⟩
    obtain ⟨b, decoded, hq⟩ := ofWire_eq_ok_iff.mp decoded
    obtain ⟨k', -, hq⟩ := ofBlock_eq_ok_iff.mp hq
    obtain ⟨c, hc, content⟩ := content_of_ofBlockAs hq
    have sound := Cached.sound_ofBlock (Block.wellFormed_of_decode decoded) hc
    rw [plain, carried, content, content_ofHeld] at fields
    rw [content_ofHeld]
    injection fields with kind fields
    cases kind
    have same : Usage.bare c.fields = Usage.onWire (Usage.bare (k.counted x)) := eq_of_heq fields
    rw [k.bare_counted bare] at same
    exact Kind.valid_of_onWire_eq bare sound.valid same
  · intro valid
    have known : kindUnder? .legacy (ofHeld k (Held.ofFields (k.counted x))).kind.type =
        some (ofHeld k (Held.ofFields (k.counted x))).kind := by
      rw [kindUnder_legacy, Kind.ofType_type]
    have unencoded : (ofHeld k (Held.ofFields (k.counted x))).content.2.wire? = none := by
      rw [content_ofHeld]
      rfl
    have fits : (ofHeld k (Held.ofFields (k.counted x))).Fits := by
      rw [Fits, content_ofHeld] at fits ⊢
      exact k.fits_counted fits
    have sound := Cached.sound_of_unencoded valid unencoded
    obtain ⟨q, decoded, fields, -⟩ := ofWire_encoding sound fits known
    rw [encoding] at decoded
    exact ⟨q, decoded, fields⟩

/-- Two open ranges with a component between them. -/
theorem ofWire_of_ofJsonText_spaced :
    let p := Packet.legacyReplicationSelectors
      { fields := { exclude := ⟨[.any, .component ⟨[97]⟩, .any]⟩ } }
    ∃ q, ofJsonText? p.jsonText = some p ∧ ofWire .legacy p.encoding.wire = .ok q ∧
      q.plain = p.plain := by
  intro p
  have valid : Invariant.Valid .built p.content.2.fields := by
    show Exclude.Spaced none [.any, .component ⟨[97]⟩, .any]
    simp [Exclude.Spaced]
  have read : ofJsonText? p.jsonText = some p :=
    ofJsonText?_of_sound (Cached.sound_of_unencoded valid rfl)
  obtain ⟨q, decoded, fields⟩ := (ofWire_of_ofJsonText read ⟨by decide, trivial⟩).mpr valid
  exact ⟨q, read, decoded, fields⟩

/-- Two open ranges next to one another. No change would make such a filter, but it is read from
JSON text, and the bytes that it is encoded as are refused. -/
theorem ofWire_of_ofJsonText_adjacent :
    let s := "\x7b\"kind\":\"LegacyReplicationSelectors\",\"exclude\":\x7b\"entries\":" ++
      "[\"Any\",\"Any\"]\x7d,\"must_be_fresh\":false\x7d"
    ∃ p, ofJsonText? s = some p ∧ ∀ q, ofWire .legacy p.encoding.wire ≠ .ok q := by
  intro s
  have read : (ofJsonText? s).map (fun p => p.encoding.wire) =
      some [208, 6, 16, 4, 19, 0, 19, 0] := by decide +kernel
  have refused : (ofWire .legacy [208, 6, 16, 4, 19, 0, 19, 0]).toOption.isSome = false := by
    decide +kernel
  obtain ⟨p, hp, wire⟩ := Option.map_eq_some_iff.mp read
  refine ⟨p, hp, ?_⟩
  intro q decoded
  rw [← wire, decoded] at refused
  cases refused

end Packet

end NamedData
