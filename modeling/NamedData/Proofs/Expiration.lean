/-
What becomes of the time until a face expires.

A face keeps the period that it is given, to the nanosecond.  Its element has room for a 64-bit
number of whole milliseconds and no more, so the period comes back from there as it was exactly if
it is such a number.  Faces are compared by their encodings, and two whose periods differ below a
millisecond only, or beyond what 64 bits count, are equal.  None of this can happen to an
announcement, whose lifetime is cut already when it is set.

* `Duration.wholeMillis_eq_self_iff` — the lengths of time that travel unchanged;
* `FaceStatus.compare_iff_onWire` — faces are equal when the wire carries the same of them;
* `FaceStatus.expirationPeriod_encode` — when a period survives, and when it tells faces apart.
-/
import NamedData.Proofs.RoundTrip
import NamedData.Proofs.Equality
import NamedData.Proofs.Observation

namespace NamedData

namespace Duration

variable {d : Duration}

/-- The length of time is a number of whole milliseconds that fits 64 bits. -/
def Travels (d : Duration) : Prop := 10 ^ 6 ∣ d.nanoseconds ∧ d.nanoseconds / 10 ^ 6 < 2 ^ 64

theorem wholeMillis_eq_self_iff : d.wholeMillis = d ↔ d.Travels := by
  have whole := nanoseconds_wholeMillis d
  constructor
  · intro same
    rw [same] at whole
    constructor <;> omega
  · rintro ⟨⟨ms, multiple⟩, small⟩
    have same : d.wholeMillis.nanoseconds = d.nanoseconds := by omega
    generalize d.wholeMillis = w at same
    cases d
    cases w
    cases same
    rfl

theorem map_wholeMillis_eq_self_iff {period : Option Duration} :
    period.map wholeMillis = period ↔ ∀ d ∈ period, d.Travels := by
  cases period with
  | none => simp
  | some d =>
    rw [Option.map_some, Option.some_inj, wholeMillis_eq_self_iff]
    simp

end Duration

/-! ### Records that a program can hold -/

section

variable {α ε : Type} [Record α] [Form α] [Editable α ε]

theorem Session.run_concat (s : Session α) (ops : List (Operation ε)) (op : Operation ε) :
    (s.run (ops ++ [op])).2 = ((s.run ops).2.step op).2 := by
  induction ops generalizing s with
  | nil => rfl
  | cons first ops ih => exact ih (s.step first).2

variable [Usage α ε] {h : Held α} {p : Provenance}

/-- What a program can hold, it can still hold after one more change. -/
theorem Held.Reachable.edit (reachable : h.Reachable p) {change : ε}
    (allowed : Usage.Allowed α p change) :
    (h.withCached (Editable.apply change h.toCached)).Reachable p := by
  obtain ⟨first, ops, obtained, each, rfl⟩ := reachable
  refine ⟨first, ops ++ [.edit change], obtained, ?_, ?_⟩
  · intro op mem
    rcases List.mem_append.mp mem with mem | mem
    · exact each op mem
    · rw [List.mem_singleton.mp mem]
      exact allowed
  · rw [Session.run_concat]
    rfl

/-- Decoding the encoding of a record gives its fields, as far as the wire carries them. -/
theorem Held.Reachable.ofBlock_encode [Invariant α] [LawfulRecord α ε]
    (reachable : h.Reachable p) (fits : Record.Fits h.fields) :
    ∃ c : Cached α, Cached.ofBlock h.encode.1 = .ok c ∧
      Usage.bare c.fields = Usage.onWire (Usage.bare h.fields) := by
  obtain ⟨c, hc, fields, -⟩ := reachable.sound.encoding.readsBack fits
  refine ⟨c, ?_, fields⟩
  rw [Cached.encode_fst]
  exact hc

end

/-! ### Faces -/

namespace FaceStatus

variable {x y : Held FaceStatus}

/-- Faces that came about without decoded material are equal when the wire carries the same of
them. -/
theorem compare_iff_onWire (hx : x.Reachable .built) (hy : y.Reachable .built)
    (fitsX : Record.Fits x.fields) (fitsY : Record.Fits y.fields) :
    (x.compare y.toCached).1 = true ↔ Usage.onWire x.fields = Usage.onWire y.fields := by
  rw [Cached.compare_eq]
  show (x.encoding.wire == y.encoding.wire) = true ↔ _
  rw [beq_iff_eq]
  constructor
  · intro same
    exact Held.onWire_eq_of_encoding_eq hx.sound hy.sound fitsX fitsY same
  · intro same
    -- what the wire does not carry is not written either
    have fields : Record.fields x.fields = Record.fields y.fields := by
      rw [← fields_onWire x.fields, same, fields_onWire]
    rw [hx.sound.encoding.fresh rfl fitsX, hy.sound.encoding.fresh rfl fitsY,
      Record.encodeFresh, Record.encodeFresh, Record.layout, Record.layout, fields]

/-- A face that was just made and then given a period. -/
theorem reachable_ofFields (p : Provenance) (period : Option Duration) :
    (Held.ofFields { expirationPeriod := period : FaceStatus }).Reachable p := by
  have start : (Held.ofFields ({} : FaceStatus)).Reachable p :=
    ⟨_, [], .constructed rfl, by simp, rfl⟩
  have allowed : Usage.Allowed FaceStatus p (Edit.setExpirationPeriod period) := trivial
  exact start.edit allowed

/-- A period arrives as whole milliseconds, capped at what 64 bits count, and so unchanged exactly
if it is that already.  Faces are equal exactly if all their fields are after the same is done to
their periods; periods that travel are told apart.  The lifetime of an announcement, on the other
hand, always arrives as the announcement reports it. -/
theorem expirationPeriod_encode (hx : x.Reachable .built) (hy : y.Reachable .built)
    (fitsX : Record.Fits x.fields) (fitsY : Record.Fits y.fields) :
    (∃ c : Cached FaceStatus, Cached.ofBlock x.encode.1 = .ok c ∧
      (c.fields.expirationPeriod.map Duration.nanoseconds = x.fields.expirationPeriod.map fun d =>
        min (d.nanoseconds / 10 ^ 6) (2 ^ 64 - 1) * 10 ^ 6) ∧
      (c.fields.expirationPeriod = x.fields.expirationPeriod ↔
        ∀ d ∈ x.fields.expirationPeriod, d.Travels)) ∧
    ((x.compare y.toCached).1 = true ↔
      { x.fields with
        expirationPeriod := x.fields.expirationPeriod.map Duration.wholeMillis } =
      { y.fields with
        expirationPeriod := y.fields.expirationPeriod.map Duration.wholeMillis }) ∧
    ((∀ d ∈ x.fields.expirationPeriod, d.Travels) →
      (∀ d ∈ y.fields.expirationPeriod, d.Travels) →
        x.fields.expirationPeriod ≠ y.fields.expirationPeriod →
          (x.compare y.toCached).1 = false) ∧
    ∀ (p : Provenance) (a : Held Announcement), a.Reachable p → Record.Fits a.fields →
      ∃ c : Cached Announcement, Cached.ofBlock a.encode.1 = .ok c ∧
        c.fields.timeout = a.fields.timeout := by
  have verdict := compare_iff_onWire hx hy fitsX fitsY
  refine ⟨?_, verdict, ?_, ?_⟩
  · obtain ⟨c, hc, fields⟩ := hx.ofBlock_encode fitsX
    have arrived : c.fields.expirationPeriod =
        x.fields.expirationPeriod.map Duration.wholeMillis :=
      congrArg FaceStatus.expirationPeriod fields
    refine ⟨c, hc, ?_, ?_⟩
    · rw [arrived, Option.map_map]
      exact congrArg (fun f => x.fields.expirationPeriod.map f)
        (funext Duration.nanoseconds_wholeMillis)
    · rw [arrived]
      exact Duration.map_wholeMillis_eq_self_iff
  · intro travelsX travelsY differ
    rw [← Bool.not_eq_true, verdict]
    intro same
    have periods : x.fields.expirationPeriod.map Duration.wholeMillis =
        y.fields.expirationPeriod.map Duration.wholeMillis :=
      congrArg FaceStatus.expirationPeriod same
    rw [Duration.map_wholeMillis_eq_self_iff.mpr travelsX,
      Duration.map_wholeMillis_eq_self_iff.mpr travelsY] at periods
    exact differ periods
  · intro p a reachable fits
    obtain ⟨c, hc, fields⟩ := reachable.ofBlock_encode fits
    exact ⟨c, hc, congrArg Announcement.timeout fields⟩

/-- A face that expires in a second is told apart from one that does not expire, and its period
arrives; an announcement that holds for a millisecond and a half reports one millisecond, and this
arrives. -/
theorem expirationPeriod_encode_second :
    let x : Held FaceStatus := Held.ofFields { expirationPeriod := some (.ofMillis 1000) }
    let y : Held FaceStatus := Held.ofFields {}
    let a : Held Announcement :=
      Held.ofFields (Announcement.create {} 1 (some ⟨1500000, by decide⟩))
    (∃ c : Cached FaceStatus, Cached.ofBlock x.encode.1 = .ok c ∧
        c.fields.expirationPeriod = some (.ofMillis 1000)) ∧
      (x.compare y.toCached).1 = false ∧
      ∃ c : Cached Announcement, Cached.ofBlock a.encode.1 = .ok c ∧
        c.fields.timeout.nanoseconds = 1000000 := by
  intro x y a
  have travels : ∀ d ∈ x.fields.expirationPeriod, d.Travels := by
    intro d mem
    cases mem
    exact ⟨by decide, by decide⟩
  have endless : ∀ d ∈ y.fields.expirationPeriod, d.Travels := by
    intro d mem
    cases mem
  obtain ⟨⟨c, hc, -, unchanged⟩, -, apart, announced⟩ :=
    expirationPeriod_encode (reachable_ofFields .built (some (.ofMillis 1000)))
      (reachable_ofFields .built none) ⟨by decide, trivial⟩ ⟨by decide, trivial⟩
  refine ⟨⟨c, hc, unchanged.mpr travels⟩, apart travels endless (by decide), ?_⟩
  have reachable : a.Reachable .built :=
    ⟨a, [], .constructed (.inr ⟨{}, 1, _, rfl⟩), by simp, rfl⟩
  obtain ⟨c, hc, same⟩ := announced .built a reachable ⟨by decide, trivial⟩
  refine ⟨c, hc, ?_⟩
  rw [same]
  decide

/-- A period of a millisecond and a half arrives as one millisecond, and the face equals one that
has this period, though the two report different ones. -/
theorem expirationPeriod_encode_lost :
    let x : Held FaceStatus :=
      Held.ofFields { expirationPeriod := some ⟨1500000, by decide⟩ }
    let y : Held FaceStatus := Held.ofFields { expirationPeriod := some (.ofMillis 1) }
    x.Reachable .built ∧ y.Reachable .built ∧ Record.Fits x.fields ∧ Record.Fits y.fields ∧
      (∃ c : Cached FaceStatus, Cached.ofBlock x.encode.1 = .ok c ∧
        c.fields.expirationPeriod ≠ x.fields.expirationPeriod) ∧
      x.fields.expirationPeriod ≠ y.fields.expirationPeriod ∧
      (x.compare y.toCached).1 = true := by
  intro x y
  have hx : x.Reachable .built := reachable_ofFields _ _
  have hy : y.Reachable .built := reachable_ofFields _ _
  have fitsX : Record.Fits x.fields := ⟨by decide, trivial⟩
  have fitsY : Record.Fits y.fields := ⟨by decide, trivial⟩
  refine ⟨hx, hy, fitsX, fitsY, ?_, by decide, ?_⟩
  · obtain ⟨c, hc, fields⟩ := hx.ofBlock_encode fitsX
    refine ⟨c, hc, ?_⟩
    have arrived : c.fields.expirationPeriod = some (.ofMillis 1) :=
      congrArg FaceStatus.expirationPeriod fields
    rw [arrived]
    decide
  · rw [compare_iff_onWire hx hy fitsX fitsY]
    decide

end FaceStatus

end NamedData
