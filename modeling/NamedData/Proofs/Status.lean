/-
The two status records are lawful records.

A status record is read field by field off the front of its children.  Each reader, run on the
child that the field is written to and any others after it, gives the field and leaves the others
(`FieldReader.integer_bind` and its companions), so the readers in a row take the children one by
one.

The wire carries lengths of time and points in time as whole milliseconds, and no time before 1970,
so these fields read back rounded.

* `Timestamp.ofMillis_wireMillis` — a point in time reads back cut to whole milliseconds;
* `TrafficCounters.read_bind` — the twelve counters read back from their twelve elements.
-/
import NamedData.Proofs.Sound

namespace NamedData

/-! ### Readers on written children -/

namespace FieldReader

variable {α β : Type} {kind : Kind} {type : UInt64} {field : String} {rest : List Element}

theorem bind_eq_ok {x : FieldReader α} {f : α → FieldReader β} {es : List Element} {b : β} :
    (x >>= f) es = .ok (b, rest) ↔ ∃ a mid, x es = .ok (a, mid) ∧ f a mid = .ok (b, rest) := by
  show (x es >>= fun r => f r.1 r.2) = _ ↔ _
  rw [NamedData.bind_eq_ok]
  constructor
  · rintro ⟨⟨a, mid⟩, hx, hf⟩
    exact ⟨a, mid, hx, hf⟩
  · rintro ⟨a, mid, hx, hf⟩
    exact ⟨(a, mid), hx, hf⟩

theorem bind_of_eq_ok {x : FieldReader α} {f : α → FieldReader β} {es : List Element} {a : α}
    (h : x es = .ok (a, rest)) : (x >>= f) es = f a rest := by
  show (x es >>= fun r => f r.1 r.2) = _
  rw [h]
  rfl

theorem required_make (value : Bytes) :
    required kind type field (.make type value :: rest) = .ok (.make type value, rest) :=
  if_pos rfl

theorem integer_cons (n : UInt64) :
    integer kind type field (.make type (NonNegativeInteger.encode n) :: rest) =
      .ok (n, rest) := by
  rw [integer, bind_of_eq_ok (required_make _)]
  show (Lookup.inKind kind (NonNegativeInteger.decode (NonNegativeInteger.encode n))).map _ = _
  rw [NonNegativeInteger.decode_encode]
  rfl

theorem integer_bind (n : UInt64) (f : UInt64 → FieldReader β) :
    (integer kind type field >>= f) (.make type (NonNegativeInteger.encode n) :: rest) =
      f n rest := bind_of_eq_ok (integer_cons n)

theorem text_bind (s : String) (f : String → FieldReader β) :
    (text kind type field >>= f) (.make type (utf8 s) :: rest) = f s rest := by
  apply bind_of_eq_ok
  rw [text, bind_of_eq_ok (required_make _)]
  show Except.ok (Utf8.textLossy (utf8 s), rest) = _
  rw [Utf8.textLossy, Utf8.decodeLossy_utf8, String.ofList_toList]

/-- A field that may be absent, when the child after it has another type. -/
theorem optionalInteger_bind (n : Option UInt64) (e : Element) (other : e.type ≠ type)
    (f : Option UInt64 → FieldReader β) :
    (optionalInteger kind type >>= f)
        ((Layout.integer? type n).map Layout.element ++ e :: rest) = f n (e :: rest) := by
  apply bind_of_eq_ok
  cases n with
  | none =>
    have absent : optional type (e :: rest) = .ok (none, e :: rest) := by
      rw [optional, if_neg other]
    show optionalInteger kind type (e :: rest) = _
    rw [optionalInteger, bind_of_eq_ok absent]
    rfl
  | some n =>
    have present (more : List Element) :
        optional type (.make type (NonNegativeInteger.encode n) :: more) =
          .ok (some (.make type (NonNegativeInteger.encode n)), more) := if_pos rfl
    show optionalInteger kind type (.make type (NonNegativeInteger.encode n) :: e :: rest) = _
    rw [optionalInteger, bind_of_eq_ok (present _)]
    show (lift (Lookup.inKind kind _) >>= _) _ = _
    rw [Element.value_make, NonNegativeInteger.decode_encode]
    rfl

theorem choice_bind {read : UInt64 → Option α} {n : UInt64} {a : α} (h : read n = some a)
    (f : α → FieldReader β) :
    (choice kind type field read >>= f) (.make type (NonNegativeInteger.encode n) :: rest) =
      f a rest := by
  apply bind_of_eq_ok
  rw [choice, integer_bind]
  simp only [h]
  rfl

/-- A choice is one of those that its number can stand for. -/
theorem of_choice_eq_ok {read : UInt64 → Option α} {es : List Element} {a : α}
    (h : choice kind type field read es = .ok (a, rest)) : ∃ n, read n = some a := by
  obtain ⟨n, mid, -, h⟩ := bind_eq_ok.mp h
  cases hn : read n with
  | none =>
    rw [hn] at h
    cases h
  | some b =>
    rw [hn] at h
    cases h
    exact ⟨n, hn⟩

end FieldReader

/-! ### Counters -/

namespace TrafficCounters

variable {β : Type} {kind : Kind} {rest : List Element}

theorem areFields_layout (c : TrafficCounters) : Layout.AreFields c.layout := by
  simp [layout]

/-- The counters read back from their elements. -/
theorem read_bind (c : TrafficCounters) (f : TrafficCounters → FieldReader β) :
    (read kind >>= f) (c.layout.map Layout.element ++ rest) = f c rest := by
  apply FieldReader.bind_of_eq_ok
  simp only [read, layout, List.map_cons, List.map_nil, Layout.element_integer, List.cons_append,
    List.nil_append, FieldReader.integer_bind]
  rfl

end TrafficCounters

/-! ### Times -/

namespace Timestamp

variable {t : Timestamp}

theorem nanoseconds_lt (h : t.inLeapSecond = false) : t.nanoseconds < 10 ^ 9 := by
  simpa [inLeapSecond] using h

theorem toNat_wireMillis (h : t.inLeapSecond = false) : t.wireMillis.toNat = t.millis.toNat := by
  have bound := nanoseconds_lt h
  have upper := t.upper
  have small : t.millis.toNat < 2 ^ 64 := by
    rw [millis]
    omega
  rw [wireMillis, UInt64.toNat_ofNat', Nat.mod_eq_of_lt small]

theorem wholeMillis_of_neg (h : t.seconds < 0) : t.wholeMillis = epoch := if_pos h

theorem seconds_wholeMillis (h : ¬ t.seconds < 0) : t.wholeMillis.seconds = t.seconds := by
  rw [wholeMillis, if_neg h]

theorem nanoseconds_wholeMillis (h : ¬ t.seconds < 0) :
    t.wholeMillis.nanoseconds = t.nanoseconds / 10 ^ 6 * 10 ^ 6 := by
  rw [wholeMillis, if_neg h]

/-- A point in time reads back cut to whole milliseconds. -/
theorem ofMillis_wireMillis (h : t.inLeapSecond = false) :
    ofMillis? t.wireMillis.toNat = some t.wholeMillis := by
  have bound := nanoseconds_lt h
  rw [toNat_wireMillis h]
  by_cases early : t.seconds < 0
  · -- a time before 1970 is sent as no milliseconds at all
    have zero : t.millis.toNat = 0 := by
      rw [millis]
      omega
    rw [zero, wholeMillis_of_neg early]
    rfl
  · have whole : (t.millis.toNat : Int) = t.seconds * 1000 + (t.nanoseconds / 10 ^ 6 : Nat) := by
      rw [millis]
      omega
    have seconds : (t.millis.toNat : Int) / 1000 = t.seconds := by omega
    have rest : ((t.millis.toNat : Int) % 1000).toNat * 10 ^ 6 =
        t.nanoseconds / 10 ^ 6 * 10 ^ 6 := by omega
    have lower := t.lower
    have upper := t.upper
    rw [ofMillis?, seconds, rest, ofUnix?, dif_pos ⟨lower, upper, by omega⟩, wholeMillis,
      if_neg early]

/-- Cutting a point in time to whole milliseconds does not change how it travels. -/
theorem wireMillis_wholeMillis (h : t.inLeapSecond = false) :
    t.wholeMillis.wireMillis = t.wireMillis := by
  have bound := nanoseconds_lt h
  have same : t.wholeMillis.millis.toNat = t.millis.toNat := by
    by_cases early : t.seconds < 0
    · have zero : t.millis.toNat = 0 := by
        rw [millis]
        omega
      rw [wholeMillis_of_neg early, zero]
      rfl
    · rw [millis, millis, seconds_wholeMillis early, nanoseconds_wholeMillis early,
        Nat.mul_div_cancel _ (by decide)]
  rw [wireMillis, wireMillis, same]

/-- What was read as a number of milliseconds is one. -/
theorem wholeMillis_of_ofMillis {n : UInt64} (h : ofMillis? n.toNat = some t) :
    t.wholeMillis = t ∧ t.inLeapSecond = false := by
  rw [ofMillis?, ofUnix?] at h
  split at h
  · injection h with h
    subst h
    have early : ¬ ((n.toNat : Int) / 1000 < 0) := by omega
    constructor
    · rw [wholeMillis, if_neg early]
      simp only [Nat.mul_div_cancel _ (show 0 < 10 ^ 6 by decide)]
    · simp only [inLeapSecond, decide_eq_false_iff_not]
      omega
  · cases h

end Timestamp

/-! ### The status of a face -/

theorem FaceScope.ofWord_toWord (v : FaceScope) : ofWord? v.toWord = some v := by
  cases v <;> rfl

theorem FacePersistency.ofWord_toWord (v : FacePersistency) : ofWord? v.toWord = some v := by
  cases v <;> rfl

theorem LinkType.ofWord_toWord (v : LinkType) : ofWord? v.toWord = some v := by
  cases v <;> rfl

namespace FaceStatus

instance : Invariant FaceStatus where

theorem children_eq (s : FaceStatus) : Record.children s =
    .make TypeNumber.faceId (NonNegativeInteger.encode s.faceId) ::
    .make TypeNumber.uri (utf8 s.remoteUri) :: .make TypeNumber.localUri (utf8 s.localUri) ::
    ((Layout.integer? TypeNumber.expirationPeriod
        (s.expirationPeriod.map Duration.wireMillis)).map Layout.element ++
      .make TypeNumber.faceScope (NonNegativeInteger.encode s.scope.toWord) ::
      .make TypeNumber.facePersistency (NonNegativeInteger.encode s.persistency.toWord) ::
      .make TypeNumber.linkType (NonNegativeInteger.encode s.linkType.toWord) ::
      (s.counters.layout.map Layout.element ++
        [.make TypeNumber.inBytes (NonNegativeInteger.encode s.inBytes),
          .make TypeNumber.outBytes (NonNegativeInteger.encode s.outBytes)])) := by
  simp only [Record.children, Record.fields, List.map_append, List.map_cons, List.map_nil,
    Layout.element_integer, Layout.element_byteArray, List.append_assoc, List.cons_append,
    List.nil_append]

/-- The fields read back from the children that they are written to, one after another. -/
theorem readFields_children (s : FaceStatus) :
    readFields (Record.children s) = .ok (Usage.onWire s, []) := by
  -- if there is no expiration period, the child in its place is of another type
  have other : TypeNumber.faceScope ≠ TypeNumber.expirationPeriod := by decide
  rw [children_eq, readFields]
  rw [FieldReader.integer_bind, FieldReader.text_bind, FieldReader.text_bind,
    FieldReader.optionalInteger_bind _ _ other,
    FieldReader.choice_bind s.scope.ofWord_toWord,
    FieldReader.choice_bind s.persistency.ofWord_toWord,
    FieldReader.choice_bind s.linkType.ofWord_toWord, TrafficCounters.read_bind,
    FieldReader.integer_bind, FieldReader.integer_bind, Option.map_map]
  rfl

theorem onWire_read {es rest : List Element} {s : FaceStatus}
    (h : readFields es = .ok (s, rest)) : Usage.onWire s = s := by
  obtain ⟨faceId, _, -, h⟩ := FieldReader.bind_eq_ok.mp h
  obtain ⟨remoteUri, _, -, h⟩ := FieldReader.bind_eq_ok.mp h
  obtain ⟨localUri, _, -, h⟩ := FieldReader.bind_eq_ok.mp h
  obtain ⟨period, _, -, h⟩ := FieldReader.bind_eq_ok.mp h
  obtain ⟨scope, _, -, h⟩ := FieldReader.bind_eq_ok.mp h
  obtain ⟨persistency, _, -, h⟩ := FieldReader.bind_eq_ok.mp h
  obtain ⟨linkType, _, -, h⟩ := FieldReader.bind_eq_ok.mp h
  obtain ⟨counters, _, -, h⟩ := FieldReader.bind_eq_ok.mp h
  obtain ⟨inBytes, _, -, h⟩ := FieldReader.bind_eq_ok.mp h
  obtain ⟨outBytes, _, -, h⟩ := FieldReader.bind_eq_ok.mp h
  cases h
  cases period with
  | none => rfl
  | some ms =>
    simp only [Usage.onWire, Option.map_some, Duration.wholeMillis_ofMillis]

theorem fields_onWire (s : FaceStatus) : Record.fields (Usage.onWire s) = Record.fields s := by
  have period : (s.expirationPeriod.map Duration.wholeMillis).map Duration.wireMillis =
      s.expirationPeriod.map Duration.wireMillis := by
    cases s.expirationPeriod with
    | none => rfl
    | some d => exact congrArg some d.wireMillis_wholeMillis
  simp only [Record.fields, Usage.onWire, period]

instance : LawfulRecord FaceStatus Edit where
  valid_constructed _ := trivial
  valid_read _ _ := trivial
  onWire_read h := by
    obtain ⟨⟨s, rest⟩, hs, rfl⟩ := map_eq_ok.mp h
    exact onWire_read hs
  areFields {_ s} _ := by simp [Record.fields, s.counters.areFields_layout]
  read_children {_ s} _ _ _ := by
    refine ⟨Usage.onWire s, ?_, rfl, s.fields_onWire⟩
    show (readFields (Record.children s)).map Prod.fst = _
    rw [s.readFields_children]
    rfl
  sound_apply {_ change _} _ _ := by
    cases change <;> exact Cached.sound_of_unencoded trivial rfl

end FaceStatus

/-! ### The status of a forwarder -/

namespace ForwarderStatus

/-- Neither point in time lies in a leap second. -/
instance : Invariant ForwarderStatus where
  Valid _ s := s.startTimestamp.inLeapSecond = false ∧ s.currentTimestamp.inLeapSecond = false

theorem children_eq (s : ForwarderStatus) : Record.children s =
    .make TypeNumber.version (utf8 s.version) ::
    .make TypeNumber.startTimestamp (NonNegativeInteger.encode s.startTimestamp.wireMillis) ::
    .make TypeNumber.currentTimestamp
      (NonNegativeInteger.encode s.currentTimestamp.wireMillis) ::
    .make TypeNumber.nameTreeEntries (NonNegativeInteger.encode s.nameTreeEntries) ::
    .make TypeNumber.fibEntries (NonNegativeInteger.encode s.fibEntries) ::
    .make TypeNumber.pitEntries (NonNegativeInteger.encode s.pitEntries) ::
    .make TypeNumber.measurementsEntries (NonNegativeInteger.encode s.measurementsEntries) ::
    .make TypeNumber.csEntries (NonNegativeInteger.encode s.csEntries) ::
    (s.counters.layout.map Layout.element ++ []) := by
  simp only [Record.children, Record.fields, List.map_cons, Layout.element_integer,
    Layout.element_byteArray, List.cons_append, List.nil_append, List.append_nil]

/-- The fields read back from the children that they are written to, one after another. -/
theorem readFields_children {s : ForwarderStatus}
    (start : s.startTimestamp.inLeapSecond = false)
    (current : s.currentTimestamp.inLeapSecond = false) :
    readFields (Record.children s) = .ok (Usage.onWire s, []) := by
  rw [children_eq, readFields, FieldReader.text_bind, FieldReader.timestamp,
    FieldReader.choice_bind (Timestamp.ofMillis_wireMillis start), FieldReader.timestamp,
    FieldReader.choice_bind (Timestamp.ofMillis_wireMillis current),
    FieldReader.integer_bind, FieldReader.integer_bind, FieldReader.integer_bind,
    FieldReader.integer_bind, FieldReader.integer_bind, TrafficCounters.read_bind]
  rfl

theorem timestamps_of_read {es rest : List Element} {s : ForwarderStatus}
    (h : readFields es = .ok (s, rest)) :
    (∃ n : UInt64, Timestamp.ofMillis? n.toNat = some s.startTimestamp) ∧
      ∃ n : UInt64, Timestamp.ofMillis? n.toNat = some s.currentTimestamp := by
  obtain ⟨version, _, -, h⟩ := FieldReader.bind_eq_ok.mp h
  obtain ⟨start, _, hstart, h⟩ := FieldReader.bind_eq_ok.mp h
  obtain ⟨current, _, hcurrent, h⟩ := FieldReader.bind_eq_ok.mp h
  obtain ⟨nameTree, _, -, h⟩ := FieldReader.bind_eq_ok.mp h
  obtain ⟨fib, _, -, h⟩ := FieldReader.bind_eq_ok.mp h
  obtain ⟨pit, _, -, h⟩ := FieldReader.bind_eq_ok.mp h
  obtain ⟨measurements, _, -, h⟩ := FieldReader.bind_eq_ok.mp h
  obtain ⟨cs, _, -, h⟩ := FieldReader.bind_eq_ok.mp h
  obtain ⟨counters, _, -, h⟩ := FieldReader.bind_eq_ok.mp h
  cases h
  exact ⟨FieldReader.of_choice_eq_ok hstart, FieldReader.of_choice_eq_ok hcurrent⟩

theorem areFields (s : ForwarderStatus) : Layout.AreFields (Record.fields s) := by
  simp [Record.fields, s.counters.areFields_layout]

instance : LawfulRecord ForwarderStatus Edit where
  valid_constructed h := by
    cases h
    exact ⟨rfl, rfl⟩
  valid_read _ h := by
    obtain ⟨⟨s, rest⟩, hs, rfl⟩ := map_eq_ok.mp h
    obtain ⟨⟨m, start⟩, n, current⟩ := timestamps_of_read hs
    exact ⟨(Timestamp.wholeMillis_of_ofMillis start).2,
      (Timestamp.wholeMillis_of_ofMillis current).2⟩
  onWire_read h := by
    obtain ⟨⟨s, rest⟩, hs, rfl⟩ := map_eq_ok.mp h
    obtain ⟨⟨m, start⟩, n, current⟩ := timestamps_of_read hs
    show Usage.onWire s = s
    simp only [Usage.onWire, (Timestamp.wholeMillis_of_ofMillis start).1,
      (Timestamp.wholeMillis_of_ofMillis current).1]
  areFields {_ s} _ := s.areFields
  read_children {_ s} valid _ _ := by
    refine ⟨Usage.onWire s, ?_, rfl, ?_⟩
    · show (readFields (Record.children s)).map Prod.fst = _
      rw [readFields_children valid.1 valid.2]
      rfl
    · simp only [Record.fields, Usage.onWire, Timestamp.wireMillis_wholeMillis valid.1,
        Timestamp.wireMillis_wholeMillis valid.2]
  sound_apply {_ change c} allowed h := by
    cases change with
    | setStartTimestamp time => exact Cached.sound_of_unencoded ⟨allowed, h.valid.2⟩ rfl
    | setCurrentTimestamp time => exact Cached.sound_of_unencoded ⟨h.valid.1, allowed⟩ rfl
    | _ => exact Cached.sound_of_unencoded h.valid rfl

end ForwarderStatus

end NamedData
