/-
Which elements decode to a status record, and what the others are refused for.

The children of a status record stand in a fixed order.  A grammar lists the fields in this order,
each with its type number, its name in errors and what its value has to be; only one of them may be
absent.  A reader that goes through a grammar leaves whatever comes after the last field, and it
stops at the first field that is not as described.

* `Conforms` — a sequence of children begins as a grammar describes, and what is left of it;
* `Fails` — the first field that is not as described, and the error that this gives;
* `Reads` — a reader does what a grammar says, in both respects;
* `Reads.bind` — readers in a row go through their grammars in a row;
* `Record.status_decodesBy` — decoding of both status records by their grammars.
-/
import NamedData.Proofs.Status

namespace NamedData

/-! ### Grammars -/

/-- What the value of a field has to be. -/
inductive Content where
  /-- A text; any bytes will do. -/
  | text
  /-- An integer below a limit. -/
  | integer (limit : Nat)
deriving DecidableEq, Repr

/-- A field at its place in a grammar. -/
structure Slot where
  /-- Its type number. -/
  type : UInt64
  /-- Its name in errors. -/
  field : String
  /-- What its value has to be. -/
  content : Content
  /-- Whether it has to be there. -/
  required : Bool := true
deriving DecidableEq, Repr

namespace Slot

def text (type : UInt64) (field : String) : Slot := { type, field, content := .text }

def integer (type : UInt64) (field : String) : Slot :=
  { type, field, content := .integer (2 ^ 64) }

def integerBelow (limit : Nat) (type : UInt64) (field : String) : Slot :=
  { type, field, content := .integer limit }

def optionalInteger (type : UInt64) (field : String) : Slot :=
  { type, field, content := .integer (2 ^ 64), required := false }

end Slot

/-- The twelve counters, the six for arriving packets first. -/
def TrafficCounters.grammar : List Slot :=
  [.integer TypeNumber.inInterests "NInInterests", .integer TypeNumber.inDatas "NInDatas",
    .integer TypeNumber.inAnnouncements "NInAnnouncements", .integer TypeNumber.inHints "NInHints",
    .integer TypeNumber.inVicinities "NInVicinities",
    .integer TypeNumber.inVicinityDatas "NInVicinityDatas",
    .integer TypeNumber.outInterests "NOutInterests", .integer TypeNumber.outDatas "NOutDatas",
    .integer TypeNumber.outAnnouncements "NOutAnnouncements",
    .integer TypeNumber.outHints "NOutHints", .integer TypeNumber.outVicinities "NOutVicinities",
    .integer TypeNumber.outVicinityDatas "NOutVicinityDatas"]

/-- The status of a face. -/
def FaceStatus.grammar : List Slot :=
  [.integer TypeNumber.faceId "FaceId", .text TypeNumber.uri "Uri",
    .text TypeNumber.localUri "LocalUri",
    .optionalInteger TypeNumber.expirationPeriod "ExpirationPeriod",
    .integerBelow 2 TypeNumber.faceScope "FaceScope",
    .integerBelow 3 TypeNumber.facePersistency "FacePersistency",
    .integerBelow 2 TypeNumber.linkType "LinkType"] ++
  TrafficCounters.grammar ++
  [.integer TypeNumber.inBytes "NInBytes", .integer TypeNumber.outBytes "NOutBytes"]

/-- The number of milliseconds from the beginning of 1970 to the end of the last year that can be
held. -/
def Timestamp.millisLimit : Nat := 8210266876800 * 1000

/-- The status of a forwarder. -/
def ForwarderStatus.grammar : List Slot :=
  [.text TypeNumber.version "NfdVersion",
    .integerBelow Timestamp.millisLimit TypeNumber.startTimestamp "StartTimestamp",
    .integerBelow Timestamp.millisLimit TypeNumber.currentTimestamp "CurrentTimestamp",
    .integer TypeNumber.nameTreeEntries "NNameTreeEntries",
    .integer TypeNumber.fibEntries "NFibEntries", .integer TypeNumber.pitEntries "NPitEntries",
    .integer TypeNumber.measurementsEntries "NMeasurementsEntries",
    .integer TypeNumber.csEntries "NCsEntries"] ++
  TrafficCounters.grammar

/-! ### What a grammar says -/

namespace Content

/-- The value is as it has to be. -/
def Admits : Content → Bytes → Prop
  | .text, _ => True
  | .integer limit, value => value.length ∈ [1, 2, 4, 8] ∧ ofBigEndian value < limit

instance : (content : Content) → (value : Bytes) → Decidable (content.Admits value)
  | .text, _ => inferInstanceAs (Decidable True)
  | .integer _, _ => inferInstanceAs (Decidable (_ ∧ _))

/-- The value is not as it has to be, and this is the error. -/
inductive Refuses (kind : Kind) (field : String) : Content → Bytes → PacketError → Prop where
  | length {limit : Nat} {value : Bytes} (h : value.length ∉ [1, 2, 4, 8]) :
    Refuses kind field (.integer limit) value (.element kind (.invalidInteger value.length))
  | range {limit : Nat} {value : Bytes} {n : UInt64} (h : value.length ∈ [1, 2, 4, 8])
    (number : n.toNat = ofBigEndian value) (beyond : limit ≤ n.toNat) :
    Refuses kind field (.integer limit) value (.invalidValue kind field n)

end Content

/-- The next child, if there is one, has another type. -/
def Absent (type : UInt64) (es : List Element) : Prop := ∀ e ∈ es.head?, e.type ≠ type

instance (type : UInt64) (es : List Element) : Decidable (Absent type es) :=
  inferInstanceAs (Decidable (∀ e ∈ es.head?, e.type ≠ type))

namespace Slot

/-- The next child is the field, or the field is absent and may be. -/
inductive Takes (slot : Slot) : List Element → List Element → Prop where
  | child {e : Element} {rest : List Element} (type : e.type = slot.type)
    (admitted : slot.content.Admits e.value) : slot.Takes (e :: rest) rest
  | nothing {es : List Element} (optional : slot.required = false)
    (absent : Absent slot.type es) : slot.Takes es es

/-- The field is absent and may not be, or the next child is the field but its value is not as it
has to be. -/
inductive Violated (kind : Kind) (slot : Slot) : List Element → PacketError → Prop where
  | missing {es : List Element} (required : slot.required = true)
    (absent : Absent slot.type es) : slot.Violated kind es (.missingField kind slot.field)
  | refused {e : Element} {rest : List Element} {error : PacketError}
    (type : e.type = slot.type) (refused : slot.content.Refuses kind slot.field e.value error) :
    slot.Violated kind (e :: rest) error

end Slot

/-- The children begin with the fields of the grammar in order, and these are left. -/
inductive Conforms : List Slot → List Element → List Element → Prop where
  | done (rest : List Element) : Conforms [] rest rest
  | next {slot : Slot} {slots : List Slot} {es mid rest : List Element}
    (taken : slot.Takes es mid) (others : Conforms slots mid rest) :
    Conforms (slot :: slots) es rest

/-- The first field of the grammar that is violated gives this error. -/
inductive Fails (kind : Kind) : List Slot → List Element → PacketError → Prop where
  | here {slot : Slot} {slots : List Slot} {es : List Element} {error : PacketError}
    (violated : slot.Violated kind es error) : Fails kind (slot :: slots) es error
  | later {slot : Slot} {slots : List Slot} {es mid : List Element} {error : PacketError}
    (taken : slot.Takes es mid) (others : Fails kind slots mid error) :
    Fails kind (slot :: slots) es error

section

variable {kind : Kind} {slot : Slot} {slots front behind : List Slot} {e : Element}
  {es rest : List Element} {error : PacketError}

theorem absent_or_next (type : UInt64) (es : List Element) :
    Absent type es ∨ ∃ e rest, es = e :: rest ∧ e.type = type := by
  cases es with
  | nil =>
    left
    intro e he
    cases he
  | cons e rest =>
    by_cases h : e.type = type
    · exact .inr ⟨e, rest, rfl, h⟩
    · left
      intro d hd
      cases hd
      exact h

theorem not_absent_cons {type : UInt64} (h : e.type = type) : ¬ Absent type (e :: rest) :=
  fun absent => absent e rfl h

theorem Slot.takes_of_absent (absent : Absent slot.type es) :
    slot.Takes es rest ↔ slot.required = false ∧ rest = es := by
  constructor
  · rintro (⟨type, -⟩ | ⟨optional, -⟩)
    · exact absurd absent (not_absent_cons type)
    · exact ⟨optional, rfl⟩
  · rintro ⟨optional, rfl⟩
    exact .nothing optional absent

theorem Slot.takes_cons (type : e.type = slot.type) :
    slot.Takes (e :: es) rest ↔ slot.content.Admits e.value ∧ rest = es := by
  constructor
  · rintro (⟨-, admitted⟩ | ⟨-, absent⟩)
    · exact ⟨admitted, rfl⟩
    · exact absurd absent (not_absent_cons type)
  · rintro ⟨admitted, rfl⟩
    exact .child type admitted

theorem Slot.violated_of_absent (absent : Absent slot.type es) : slot.Violated kind es error ↔
    slot.required = true ∧ error = .missingField kind slot.field := by
  constructor
  · rintro (⟨required, -⟩ | ⟨type, -⟩)
    · exact ⟨required, rfl⟩
    · exact absurd absent (not_absent_cons type)
  · rintro ⟨required, rfl⟩
    exact .missing required absent

theorem Slot.violated_cons (type : e.type = slot.type) : slot.Violated kind (e :: es) error ↔
    slot.content.Refuses kind slot.field e.value error := by
  constructor
  · rintro (⟨-, absent⟩ | ⟨-, refused⟩)
    · exact absurd absent (not_absent_cons type)
    · exact refused
  · exact .refused type

theorem conforms_nil_iff : Conforms [] es rest ↔ es = rest := by
  constructor
  · rintro ⟨⟩
    rfl
  · rintro rfl
    exact .done es

theorem conforms_cons_iff : Conforms (slot :: slots) es rest ↔
    ∃ mid, slot.Takes es mid ∧ Conforms slots mid rest := by
  constructor
  · rintro (_ | ⟨taken, others⟩)
    exact ⟨_, taken, others⟩
  · rintro ⟨mid, taken, others⟩
    exact .next taken others

theorem conforms_singleton_iff : Conforms [slot] es rest ↔ slot.Takes es rest := by
  simp only [conforms_cons_iff, conforms_nil_iff, exists_eq_right]

theorem conforms_append_iff : Conforms (front ++ behind) es rest ↔
    ∃ mid, Conforms front es mid ∧ Conforms behind mid rest := by
  induction front generalizing es with
  | nil => simp only [List.nil_append, conforms_nil_iff, exists_eq_left']
  | cons slot front ih =>
    rw [List.cons_append, conforms_cons_iff]
    constructor
    · rintro ⟨first, taken, others⟩
      obtain ⟨mid, before, after⟩ := ih.mp others
      exact ⟨mid, .next taken before, after⟩
    · rintro ⟨mid, before, after⟩
      obtain ⟨first, taken, others⟩ := conforms_cons_iff.mp before
      exact ⟨first, taken, ih.mpr ⟨mid, others, after⟩⟩

theorem not_fails_nil : ¬ Fails kind [] es error := by
  rintro ⟨⟩

theorem fails_cons_iff : Fails kind (slot :: slots) es error ↔
    slot.Violated kind es error ∨ ∃ mid, slot.Takes es mid ∧ Fails kind slots mid error := by
  constructor
  · rintro (violated | ⟨taken, others⟩)
    · exact .inl violated
    · exact .inr ⟨_, taken, others⟩
  · rintro (violated | ⟨mid, taken, others⟩)
    · exact .here violated
    · exact .later taken others

theorem fails_singleton_iff : Fails kind [slot] es error ↔ slot.Violated kind es error := by
  simp only [fails_cons_iff, not_fails_nil, and_false, exists_false, or_false]

theorem fails_append_iff : Fails kind (front ++ behind) es error ↔
    Fails kind front es error ∨ ∃ mid, Conforms front es mid ∧ Fails kind behind mid error := by
  -- on the fields in front: a violation among those behind counts only after all of them
  induction front generalizing es with
  | nil => simp only [List.nil_append, not_fails_nil, conforms_nil_iff, exists_eq_left', false_or]
  | cons slot front ih =>
    rw [List.cons_append, fails_cons_iff, fails_cons_iff]
    constructor
    · rintro (violated | ⟨first, taken, others⟩)
      · exact .inl (.inl violated)
      · rcases ih.mp others with before | ⟨mid, before, after⟩
        · exact .inl (.inr ⟨first, taken, before⟩)
        · exact .inr ⟨mid, .next taken before, after⟩
    · rintro ((violated | ⟨first, taken, before⟩) | ⟨mid, before, after⟩)
      · exact .inl violated
      · exact .inr ⟨first, taken, ih.mpr (.inl before)⟩
      · obtain ⟨first, taken, others⟩ := conforms_cons_iff.mp before
        exact .inr ⟨first, taken, ih.mpr (.inr ⟨mid, others, after⟩)⟩

end

/-! ### Readers that go through a grammar -/

/-- The reader succeeds on the children that conform to the grammar, leaving what the grammar
leaves, and fails on the others with the error of the first field that is violated. -/
structure Reads {α : Type} (kind : Kind) (r : FieldReader α) (slots : List Slot) : Prop where
  ok : ∀ es rest, (∃ a, r es = .ok (a, rest)) ↔ Conforms slots es rest
  error : ∀ es error, r es = .error error ↔ Fails kind slots es error

namespace Reads

variable {α β : Type} {kind : Kind} {slot : Slot} {slots front behind : List Slot}

theorem pure (a : α) : Reads kind (Pure.pure a : FieldReader α) [] where
  ok es rest := by
    rw [conforms_nil_iff]
    constructor
    · rintro ⟨b, h⟩
      cases h
      rfl
    · rintro rfl
      exact ⟨a, rfl⟩
  error es error := by
    constructor
    · intro h
      cases h
    · intro h
      exact absurd h not_fails_nil

theorem bind {r : FieldReader α} {f : α → FieldReader β} (hr : Reads kind r front)
    (hf : ∀ a, Reads kind (f a) behind) : Reads kind (r >>= f) (front ++ behind) where
  ok es rest := by
    rw [conforms_append_iff]
    constructor
    · rintro ⟨b, h⟩
      obtain ⟨a, mid, ha, hb⟩ := FieldReader.bind_eq_ok.mp h
      exact ⟨mid, (hr.ok es mid).mp ⟨a, ha⟩, ((hf a).ok mid rest).mp ⟨b, hb⟩⟩
    · rintro ⟨mid, before, after⟩
      obtain ⟨a, ha⟩ := (hr.ok es mid).mpr before
      obtain ⟨b, hb⟩ := ((hf a).ok mid rest).mpr after
      exact ⟨b, FieldReader.bind_eq_ok.mpr ⟨a, mid, ha, hb⟩⟩
  error es error := by
    rw [fails_append_iff]
    have run : (r >>= f) es = (r es >>= fun p => f p.1 p.2) := rfl
    constructor
    · intro h
      rw [run] at h
      cases hes : r es with
      | error cause =>
        rw [hes] at h
        cases h
        exact .inl ((hr.error es error).mp hes)
      | ok p =>
        rw [hes] at h
        exact .inr ⟨p.2, (hr.ok es p.2).mp ⟨p.1, hes⟩, ((hf p.1).error p.2 error).mp h⟩
    · rintro (before | ⟨mid, before, after⟩)
      · rw [run, (hr.error es error).mpr before]
        rfl
      · obtain ⟨a, ha⟩ := (hr.ok es mid).mpr before
        rw [run, ha]
        exact ((hf a).error mid error).mpr after

theorem cons {r : FieldReader α} {f : α → FieldReader β} (hr : Reads kind r [slot])
    (hf : ∀ a, Reads kind (f a) slots) : Reads kind (r >>= f) (slot :: slots) := hr.bind hf

/-- A reader of one field: what it does when the field is absent, and what it makes of the value
when it is not. -/
theorem singleton {r : FieldReader α} (check : Bytes → Except PacketError α)
    (required : slot.required = true → ∀ es, Absent slot.type es →
      r es = .error (.missingField kind slot.field))
    (optional : slot.required = false → ∀ es, Absent slot.type es → ∃ a, r es = .ok (a, es))
    (present : ∀ e rest, e.type = slot.type →
      r (e :: rest) = (check e.value).map fun a => (a, rest))
    (admits : ∀ value, (∃ a, check value = .ok a) ↔ slot.content.Admits value)
    (refuses : ∀ value error, check value = .error error ↔
      slot.content.Refuses kind slot.field value error) : Reads kind r [slot] where
  ok es rest := by
    rw [conforms_singleton_iff]
    rcases absent_or_next slot.type es with absent | ⟨e, es, rfl, type⟩
    · rw [Slot.takes_of_absent absent]
      cases h : slot.required with
      | true => simp [required h es absent]
      | false =>
        obtain ⟨a, ha⟩ := optional h es absent
        simp [ha, eq_comm]
    · rw [Slot.takes_cons type, ← admits, present e es type]
      constructor
      · rintro ⟨a, h⟩
        obtain ⟨b, hb, h⟩ := map_eq_ok.mp h
        cases h
        exact ⟨⟨a, hb⟩, rfl⟩
      · rintro ⟨⟨a, ha⟩, rfl⟩
        exact ⟨a, map_eq_ok.mpr ⟨a, ha, rfl⟩⟩
  error es error := by
    rw [fails_singleton_iff]
    rcases absent_or_next slot.type es with absent | ⟨e, es, rfl, type⟩
    · rw [Slot.violated_of_absent absent]
      cases h : slot.required with
      | true => simp [required h es absent, eq_comm]
      | false =>
        obtain ⟨a, ha⟩ := optional h es absent
        simp [ha]
    · rw [Slot.violated_cons type, ← refuses, present e es type]
      cases check e.value <;> simp [Except.map]

end Reads

/-! ### The fields -/

/-- An integer that stands for something, read from a value. -/
def readInteger {α : Type} (kind : Kind) (field : String) (read : UInt64 → Option α)
    (value : Bytes) : Except PacketError α :=
  match NonNegativeInteger.decode value with
  | .error cause => .error (.element kind cause)
  | .ok n =>
    match read n with
    | some a => .ok a
    | none => .error (.invalidValue kind field n)

section

variable {α : Type} {kind : Kind} {field : String} {type : UInt64} {limit : Nat}
  {read : UInt64 → Option α}

/-- An integer is read from each of the four widths, as the number that its bytes stand for. -/
theorem NonNegativeInteger.decode_eq_ok_iff {value : Bytes} {n : UInt64} :
    decode value = .ok n ↔ value.length ∈ [1, 2, 4, 8] ∧ n.toNat = ofBigEndian value := by
  have fits (h : value.length ∈ [1, 2, 4, 8]) : ofBigEndian value < 2 ^ 64 := by
    have bound := ofBigEndian_lt value
    simp only [List.mem_cons, List.not_mem_nil, or_false] at h
    rcases h with h | h | h | h <;> rw [h] at bound <;> omega
  rw [decode]
  split
  · rename_i h
    constructor
    · intro hn
      cases hn
      exact ⟨h, by rw [UInt64.toNat_ofNat', Nat.mod_eq_of_lt (fits h)]⟩
    · rintro ⟨-, hn⟩
      rw [← hn, UInt64.ofNat_toNat]
  · rename_i h
    simp [h]

theorem NonNegativeInteger.decode_eq_error_iff {value : Bytes} {cause : TlvError} :
    decode value = .error cause ↔
      value.length ∉ [1, 2, 4, 8] ∧ cause = .invalidInteger value.length := by
  rw [decode]
  split
  · rename_i h
    simp [h]
  · rename_i h
    simp [h, eq_comm]

theorem readInteger_eq_ok_iff {value : Bytes} {a : α} : readInteger kind field read value = .ok a ↔
    ∃ n, NonNegativeInteger.decode value = .ok n ∧ read n = some a := by
  rw [readInteger]
  cases NonNegativeInteger.decode value with
  | error cause => simp
  | ok n => cases h : read n <;> simp [h]

theorem readInteger_eq_error_iff {value : Bytes} {error : PacketError} :
    readInteger kind field read value = .error error ↔
      (∃ cause, NonNegativeInteger.decode value = .error cause ∧ error = .element kind cause) ∨
        ∃ n, NonNegativeInteger.decode value = .ok n ∧ read n = none ∧
          error = .invalidValue kind field n := by
  rw [readInteger]
  cases NonNegativeInteger.decode value with
  | error cause => simp [eq_comm]
  | ok n => cases h : read n <;> simp [h, eq_comm]

theorem readInteger_admits (bounded : ∀ n, (read n).isSome = true ↔ n.toNat < limit)
    (value : Bytes) : (∃ a, readInteger kind field read value = .ok a) ↔
      (Content.integer limit).Admits value := by
  constructor
  · rintro ⟨a, h⟩
    obtain ⟨n, hn, ha⟩ := readInteger_eq_ok_iff.mp h
    obtain ⟨width, number⟩ := NonNegativeInteger.decode_eq_ok_iff.mp hn
    refine ⟨width, ?_⟩
    rw [← number, ← bounded, ha]
    rfl
  · rintro ⟨width, below⟩
    have decoded : NonNegativeInteger.decode value = .ok _ := if_pos width
    rw [← (NonNegativeInteger.decode_eq_ok_iff.mp decoded).2, ← bounded] at below
    obtain ⟨a, ha⟩ := Option.isSome_iff_exists.mp below
    exact ⟨a, readInteger_eq_ok_iff.mpr ⟨_, decoded, ha⟩⟩

theorem readInteger_refuses (bounded : ∀ n, (read n).isSome = true ↔ n.toNat < limit)
    (value : Bytes) (error : PacketError) : readInteger kind field read value = .error error ↔
      (Content.integer limit).Refuses kind field value error := by
  have beyond (n : UInt64) : read n = none ↔ limit ≤ n.toNat := by
    rw [← Nat.not_lt, ← bounded, Option.not_isSome_iff_eq_none]
  rw [readInteger_eq_error_iff]
  constructor
  · rintro (⟨cause, h, rfl⟩ | ⟨n, h, none, rfl⟩)
    · obtain ⟨width, rfl⟩ := NonNegativeInteger.decode_eq_error_iff.mp h
      exact .length width
    · obtain ⟨width, number⟩ := NonNegativeInteger.decode_eq_ok_iff.mp h
      exact .range width number ((beyond n).mp none)
  · rintro (width | ⟨width, number, above⟩)
    · exact .inl ⟨_, NonNegativeInteger.decode_eq_error_iff.mpr ⟨width, rfl⟩, rfl⟩
    · exact .inr ⟨_, NonNegativeInteger.decode_eq_ok_iff.mpr ⟨width, number⟩,
        (beyond _).mpr above, rfl⟩

end

namespace FieldReader

variable {α β : Type} {kind : Kind} {type : UInt64} {field : String} {es : List Element}

theorem bind_of_eq_error {x : FieldReader α} {f : α → FieldReader β} {error : PacketError}
    (h : x es = .error error) : (x >>= f) es = .error error := by
  show (x es >>= fun r => f r.1 r.2) = _
  rw [h]
  rfl

theorem required_of_absent (absent : Absent type es) :
    required kind type field es = .error (.missingField kind field) := by
  cases es with
  | nil => rfl
  | cons e rest => exact if_neg (absent e rfl)

theorem integer_of_type {e : Element} (h : e.type = type) :
    integer kind type field (e :: es) =
      (readInteger kind field some e.value).map fun n => (n, es) := by
  have found : required kind type field (e :: es) = .ok (e, es) := if_pos h
  rw [integer, bind_of_eq_ok found, readInteger]
  cases NonNegativeInteger.decode e.value <;> rfl

theorem choice_of_type {read : UInt64 → Option α} {e : Element} (h : e.type = type) :
    choice kind type field read (e :: es) =
      (readInteger kind field read e.value).map fun a => (a, es) := by
  show (integer kind type field (e :: es) >>= _) = _
  rw [integer_of_type h, readInteger, readInteger]
  cases NonNegativeInteger.decode e.value with
  | error cause => rfl
  | ok n =>
    show (match read n with
      | some a => (Pure.pure a : FieldReader α)
      | none => lift (.error (.invalidValue kind field n))) es = _
    cases h : read n with
    | none => simp only [h]; rfl
    | some a => simp only [h]; rfl

theorem reads_text : Reads kind (text kind type field) [.text type field] := by
  refine Reads.singleton (fun value => .ok (Utf8.textLossy value)) ?_ ?_ ?_ ?_ ?_
  · intro _ es absent
    exact bind_of_eq_error (required_of_absent absent)
  · intro optional
    cases optional
  · intro e rest h
    exact bind_of_eq_ok (if_pos h)
  · intro value
    exact ⟨fun _ => trivial, fun _ => ⟨_, rfl⟩⟩
  · intro value error
    constructor
    · intro h
      cases h
    · rintro ⟨⟩

theorem reads_choice {read : UInt64 → Option α} {limit : Nat}
    (bounded : ∀ n, (read n).isSome = true ↔ n.toNat < limit) :
    Reads kind (choice kind type field read) [.integerBelow limit type field] := by
  refine Reads.singleton _ ?_ ?_ ?_ (readInteger_admits bounded) (readInteger_refuses bounded)
  · intro _ es absent
    exact bind_of_eq_error (bind_of_eq_error (required_of_absent absent))
  · intro optional
    cases optional
  · intro e rest h
    exact choice_of_type h

theorem isSome_some_iff {α : Type} (f : UInt64 → α) (n : UInt64) :
    (some (f n)).isSome = true ↔ n.toNat < 2 ^ 64 :=
  ⟨fun _ => n.toNat_lt, fun _ => rfl⟩

theorem reads_integer : Reads kind (integer kind type field) [.integer type field] := by
  refine Reads.singleton _ ?_ ?_ ?_ (readInteger_admits (isSome_some_iff fun n => n))
    (readInteger_refuses (isSome_some_iff fun n => n))
  · intro _ es absent
    exact bind_of_eq_error (required_of_absent absent)
  · intro optional
    cases optional
  · intro e rest h
    exact integer_of_type h

theorem reads_optionalInteger :
    Reads kind (optionalInteger kind type) [.optionalInteger type field] := by
  refine Reads.singleton _ ?_ ?_ ?_ (readInteger_admits (isSome_some_iff some))
    (readInteger_refuses (isSome_some_iff some))
  · intro required
    cases required
  · intro _ es absent
    -- nothing is consumed, so the same child is there for the next field
    refine ⟨none, bind_of_eq_ok (a := none) ?_⟩
    cases es with
    | nil => rfl
    | cons e rest => exact if_neg (absent e rfl)
  · intro e rest h
    have found : optional type (e :: rest) = .ok (some e, rest) := if_pos h
    rw [optionalInteger, bind_of_eq_ok found, readInteger]
    cases h : NonNegativeInteger.decode e.value with
    | error cause => simp only [h]; rfl
    | ok n => simp only [h]; rfl

end FieldReader

/-! ### The two status records -/

theorem Timestamp.isSome_ofMillis (n : UInt64) :
    (ofMillis? n.toNat).isSome = true ↔ n.toNat < millisLimit := by
  rw [ofMillis?, ofUnix?, millisLimit]
  split
  · rename_i h
    simp only [Option.isSome_some, true_iff]
    omega
  · rename_i h
    simp only [Option.isSome_none, Bool.false_eq_true, false_iff]
    omega

theorem FaceScope.isSome_ofWord (n : UInt64) : (ofWord? n).isSome = true ↔ n.toNat < 2 := by
  simp only [ofWord?, ← UInt64.toNat_inj, UInt64.reduceToNat]
  grind

theorem FacePersistency.isSome_ofWord (n : UInt64) :
    (ofWord? n).isSome = true ↔ n.toNat < 3 := by
  simp only [ofWord?, ← UInt64.toNat_inj, UInt64.reduceToNat]
  grind

theorem LinkType.isSome_ofWord (n : UInt64) : (ofWord? n).isSome = true ↔ n.toNat < 2 := by
  simp only [ofWord?, ← UInt64.toNat_inj, UInt64.reduceToNat]
  grind

theorem TrafficCounters.reads {kind : Kind} : Reads kind (read kind) grammar := by
  unfold read
  refine .cons FieldReader.reads_integer fun inInterests => ?_
  refine .cons FieldReader.reads_integer fun inDatas => ?_
  refine .cons FieldReader.reads_integer fun inAnnouncements => ?_
  refine .cons FieldReader.reads_integer fun inHints => ?_
  refine .cons FieldReader.reads_integer fun inVicinities => ?_
  refine .cons FieldReader.reads_integer fun inVicinityDatas => ?_
  refine .cons FieldReader.reads_integer fun outInterests => ?_
  refine .cons FieldReader.reads_integer fun outDatas => ?_
  refine .cons FieldReader.reads_integer fun outAnnouncements => ?_
  refine .cons FieldReader.reads_integer fun outHints => ?_
  refine .cons FieldReader.reads_integer fun outVicinities => ?_
  refine .cons FieldReader.reads_integer fun outVicinityDatas => ?_
  exact .pure _

theorem FaceStatus.reads : Reads .faceStatus readFields grammar := by
  unfold readFields
  refine .cons FieldReader.reads_integer fun faceId => ?_
  refine .cons FieldReader.reads_text fun remoteUri => ?_
  refine .cons FieldReader.reads_text fun localUri => ?_
  refine .cons FieldReader.reads_optionalInteger fun expirationPeriod => ?_
  refine .cons (FieldReader.reads_choice FaceScope.isSome_ofWord) fun scope => ?_
  refine .cons (FieldReader.reads_choice FacePersistency.isSome_ofWord) fun persistency => ?_
  refine .cons (FieldReader.reads_choice LinkType.isSome_ofWord) fun linkType => ?_
  refine .bind TrafficCounters.reads fun counters => ?_
  refine .cons FieldReader.reads_integer fun inBytes => ?_
  refine .cons FieldReader.reads_integer fun outBytes => ?_
  exact .pure _

theorem ForwarderStatus.reads : Reads .forwarderStatus readFields grammar := by
  unfold readFields
  refine .cons FieldReader.reads_text fun version => ?_
  refine .cons (FieldReader.reads_choice Timestamp.isSome_ofMillis) fun start => ?_
  refine .cons (FieldReader.reads_choice Timestamp.isSome_ofMillis) fun current => ?_
  refine .cons FieldReader.reads_integer fun nameTree => ?_
  refine .cons FieldReader.reads_integer fun fib => ?_
  refine .cons FieldReader.reads_integer fun pit => ?_
  refine .cons FieldReader.reads_integer fun measurements => ?_
  refine .cons FieldReader.reads_integer fun cs => ?_
  -- the counters come last, and nothing behind them
  show Reads _ _ (TrafficCounters.grammar ++ [])
  exact .bind TrafficCounters.reads fun counters => .pure _

/-- What becomes of a block that is decoded as a record with this type number and this grammar. -/
structure DecodesBy (α : Type) [Record α] (type : UInt64) (grammar : List Slot) (b : Block) :
    Prop where
  /-- It is accepted if the type number is right and the value splits into elements that begin as
  the grammar describes, whatever follows. -/
  accepted : (∃ c : Cached α, Cached.ofBlock b = .ok c) ↔
    b.type = type ∧ ∃ es rest, Element.split b.value = .ok es ∧ Conforms grammar es rest
  /-- If the value splits and the type number is right, the first field that is violated makes the
  error. -/
  refused : b.type = type → ∀ es, Element.split b.value = .ok es → ∀ error,
    ((Cached.ofBlock b : Except PacketError (Cached α)) = .error error ↔
      Fails (Record.kind α) grammar es error)
  /-- Another type number is an error of its own, and so is a value that does not split. -/
  foreign : b.type ≠ type → (Cached.ofBlock b : Except PacketError (Cached α)) =
    .error (.unexpectedType (Record.kind α) type b.type)
  unsplit : b.type = type → ∀ cause, Element.split b.value = .error cause →
    (Cached.ofBlock b : Except PacketError (Cached α)) = .error (.element (Record.kind α) cause)

theorem Reads.decodesBy {α : Type} [Record α] [Record.LawfulNumbers α] {r : FieldReader α}
    {slots : List Slot} {b : Block} (h : Reads (Record.kind α) r slots)
    (read : ∀ es, Record.read es = (r es).map Prod.fst) (hb : b.WellFormed) :
    DecodesBy α (Record.kind α).type slots b where
  accepted := by
    constructor
    · rintro ⟨c, hc⟩
      obtain ⟨type, q, parsed, fields, -⟩ := Record.ofBlock_eq_ok_iff.mp hc
      obtain ⟨es, split, rfl⟩ := (Block.parse_eq_ok_iff hb).mp parsed
      rw [read] at fields
      obtain ⟨⟨x, rest⟩, hx, -⟩ := map_eq_ok.mp fields
      exact ⟨type, es, rest, split, (h.ok es rest).mp ⟨x, hx⟩⟩
    · rintro ⟨type, es, rest, split, conforms⟩
      obtain ⟨x, hx⟩ := (h.ok es rest).mpr conforms
      have fields := Record.fields_ofBlock hb type split
      rw [read, hx] at fields
      obtain ⟨c, hc, -⟩ := map_eq_ok.mp fields
      exact ⟨c, hc⟩
  refused type es split error := by
    have fields := Record.fields_ofBlock hb type split
    rw [← h.error, ← map_eq_error (f := Cached.fields), fields, read, map_eq_error]
  foreign type := by
    rw [Cached.ofBlock, Record.readBlock, Record.LawfulNumbers.expected_eq, if_neg type]
    rfl
  unsplit type cause split := by
    rw [Cached.ofBlock, Record.readBlock, Record.LawfulNumbers.expected_eq, if_pos type,
      (Block.parse_eq_error_iff hb).mpr split]
    rfl

/-- Both status records decode by their grammars, the status of a face from a block of type 128 and
that of a forwarder from one of type 21. -/
theorem Record.status_decodesBy {b : Block} (hb : b.WellFormed) :
    DecodesBy FaceStatus 128 FaceStatus.grammar b ∧
      DecodesBy ForwarderStatus 21 ForwarderStatus.grammar b :=
  ⟨FaceStatus.reads.decodesBy (fun _ => rfl) hb, ForwarderStatus.reads.decodesBy (fun _ => rfl) hb⟩

/-- The status of a face without an expiration period, and with a persistency that there is not. -/
theorem Record.status_decodesBy_persistency :
    let b := Block.ofElement ⟨128, [128, 13],
      [105, 1, 7, 114, 0, 129, 0, 132, 1, 0, 133, 1, 9]⟩
    (Cached.ofBlock b : Except PacketError (Cached FaceStatus)) =
      .error (.invalidValue .faceStatus "FacePersistency" 9) := by
  intro b
  have hb : b.WellFormed := Block.wellFormed_ofElement ⟨13, rfl, rfl⟩
  let id : Element := ⟨105, [105, 1], [7]⟩
  let remote : Element := ⟨114, [114, 0], []⟩
  let here : Element := ⟨129, [129, 0], []⟩
  let scope : Element := ⟨132, [132, 1], [0]⟩
  let persistency : Element := ⟨133, [133, 1], [9]⟩
  have wellFormed : id.WellFormed ∧ remote.WellFormed ∧ here.WellFormed ∧ scope.WellFormed ∧
      persistency.WellFormed :=
    ⟨⟨1, rfl, rfl⟩, ⟨0, rfl, rfl⟩, ⟨0, rfl, rfl⟩, ⟨1, rfl, rfl⟩, ⟨1, rfl, rfl⟩⟩
  have split : Element.split b.value = .ok [id, remote, here, scope, persistency] :=
    Element.split_eq_ok_iff.mpr ⟨by simp [wellFormed], rfl⟩
  refine ((status_decodesBy hb).1.refused rfl _ split _).mpr ?_
  refine .later (.child rfl (by decide)) ?_
  refine .later (.child rfl trivial) ?_
  refine .later (.child rfl trivial) ?_
  -- no expiration period: the scope is next
  refine .later (.nothing rfl (by decide)) ?_
  refine .later (.child rfl (by decide)) ?_
  exact .here (.refused rfl (.range (by decide) rfl (by decide)))

end NamedData
