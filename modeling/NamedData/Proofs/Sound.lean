/-
Sound records: the invariant of every history.

A cached record is sound when its fields are such as its kind allows and the block that it keeps, if
it keeps one, encodes them: a well-formed block that was split and stands for the fields.  In a
history that takes nothing from decoded bytes it is even the one that they would get afresh.

What the kinds have in common is proved here from the laws of `LawfulRecord`, which each kind
satisfies; nothing here knows what the fields of a kind are.

* `readsBack_encodeFresh` — a record that fits is encoded, and its encoding stands for it;
* `Cached.kept_sound` — whatever is done to a sound record leaves it sound;
* `Held.Reachable.sound` — so every record that a program can hold is sound.
-/
import NamedData.Proofs.Usage
import NamedData.Proofs.Histories

namespace NamedData

/-- What is true of the fields of every record that a program can hold. -/
class Invariant (α : Type) where
  /-- The fields are such as constructors, changes and decoding make them. -/
  Valid : Provenance → α → Prop := fun _ _ => True

/-- The children that the fields of a record are written to. -/
def Record.children {α : Type} [Record α] (x : α) : List Element := (fields x).map Layout.element

section

variable {α ε : Type} [Record α] [Usage α ε] [Invariant α]

/-- The block is an encoding of the record: split, and standing for the fields if these fit.
Without decoded material it is the one that the fields would get afresh. -/
structure Record.Encodes (p : Provenance) (b : Block) (x : α) : Prop where
  wellFormed : b.WellFormed
  parsed : b.isParsed = true
  readsBack : Fits x → ReadsBack b x
  fresh : p = .built → Fits x → b = encodeFresh x

/-- The cached record is one that a program can hold. -/
structure Cached.Sound (p : Provenance) (c : Cached α) : Prop where
  valid : Invariant.Valid p c.fields
  encodes : ∀ b, c.wire? = some b → Record.Encodes p b c.fields

/-- The second record has the fields of the first and is written in the same way. -/
structure Record.Keeps (p : Provenance) (x y : α) : Prop where
  valid : Invariant.Valid p y
  fields : Record.fields y = Record.fields x
  bare : Usage.bare y = Usage.bare x

end

/-- The laws of a kind of record. -/
class LawfulRecord (α : Type) (ε : outParam Type) [Record α] [Editable α ε] [Usage α ε]
    [Invariant α] : Prop extends Record.LawfulNumbers α where
  valid_constructed {p : Provenance} {x : α} (h : Usage.Constructed x) : Invariant.Valid p x
  valid_read {es : List Element} {x : α} (hes : ∀ e ∈ es, e.WellFormed)
    (h : Record.read es = .ok x) : Invariant.Valid .received x
  /-- What was read has no more than the wire can carry. -/
  onWire_read {es : List Element} {x : α} (h : Record.read es = .ok x) :
    Usage.onWire (Usage.bare x) = Usage.bare x
  areFields {p : Provenance} {x : α} (h : Invariant.Valid p x) :
    Layout.AreFields (Record.fields x)
  /-- The children that the fields are written to read back as the record. -/
  read_children {p : Provenance} {x : α} (h : Invariant.Valid p x)
    (size : (Layout.wireAll (Record.fields x)).length < 2 ^ 64)
    (nested : Usage.NestedFits (Usage.bare x)) :
    ∃ y : α, Record.read (Record.children x) = .ok y ∧
      Usage.bare y = Usage.onWire (Usage.bare x) ∧ Record.fields y = Record.fields x
  keeps_settle {p : Provenance} {x : α} (h : Invariant.Valid p x) :
    Record.Keeps p x (Record.settle x) := by exact fun h => ⟨h, rfl, rfl⟩
  keeps_nested {p : Provenance} {x y : α} {b : Block} (h : Invariant.Valid p x)
    (hy : Record.encodeNested? x = some (b, y)) : Record.Keeps p x y := by
      intro _ _ _ _ _ hy
      cases hy
  /-- Without decoded material a record inside is written as its fields say. -/
  fields_bare {x : α} (h : Invariant.Valid .built x) (nested : Usage.NestedFits (Usage.bare x)) :
    Record.fields (Usage.bare x) = Record.fields x := by exact fun _ _ => rfl
  nested_coherent {p : Provenance} {x : α} (h : Invariant.Valid p x) : Usage.NestedCoherent x := by
    exact fun _ => trivial
  sound_apply {p : Provenance} {change : ε} {c : Cached α} (allowed : Usage.Allowed α p change)
    (h : c.Sound p) : (Editable.apply change c).Sound p

/-! ### Encoding and decoding -/

namespace Record

section

variable {α : Type} [Record α] {x : α} {b q : Block} {c : Cached α}

/-- Whether a block was split before makes no difference to what it stands for. -/
theorem ofBlock_ofElement (hb : b.WellFormed) :
    (Cached.ofBlock (Block.ofElement b.element) : Except PacketError (Cached α)) =
      Cached.ofBlock b := by
  rw [Cached.ofBlock, readBlock, Block.parse_ofElement hb]
  rfl

/-- Keeping the encoding does not change what it is. -/
theorem encoding_encode (c : Cached α) : c.encode.2.encoding = c.encoding := by
  obtain ⟨fields, wire?⟩ := c
  cases wire? <;> rfl

theorem length_of_estimate (h : estimate x ≤ maxPosition) :
    (Layout.wireAll (fields x)).length < 2 ^ 64 := by
  rw [estimate, Layout.estimate_eq, layout, Layout.wire, maxPosition] at h
  have whole : (elementBytes (writtenType α) (Layout.wireAll (fields x))).length < 2 ^ 64 := by
    omega
  exact Layout.length_lt_of_elementBytes whole

/-- Encoding gives a well-formed block that was split, whether or not the record fits. -/
theorem wellFormed_encodeFresh (x : α) :
    (encodeFresh x).WellFormed ∧ (encodeFresh x).isParsed = true := Layout.wellFormed_encode _

variable [LawfulNumbers α]

theorem readBlock_eq_ok_iff : readBlock b = .ok (x, q) ↔
    b.type = (kind α).type ∧ b.parse = .ok q ∧ read q.children = .ok x := by
  rw [readBlock, LawfulNumbers.expected_eq]
  by_cases type : b.type = (kind α).type
  · rw [if_pos type]
    cases parsed : b.parse with
    | error e => simp
    | ok r =>
      show (read r.children).map _ = _ ↔ _
      rw [map_eq_ok]
      constructor
      · rintro ⟨y, hy, h⟩
        cases h
        exact ⟨type, rfl, hy⟩
      · rintro ⟨-, h, hx⟩
        cases h
        exact ⟨x, hx, rfl⟩
  · rw [if_neg type]
    simp [type]

theorem ofBlock_eq_ok_iff : Cached.ofBlock b = .ok c ↔
    b.type = (kind α).type ∧ ∃ q, b.parse = .ok q ∧ read q.children = .ok c.fields ∧
      c.wire? = some q := by
  rw [Cached.ofBlock, map_eq_ok]
  constructor
  · rintro ⟨⟨x, q⟩, h, rfl⟩
    obtain ⟨type, parsed, hx⟩ := readBlock_eq_ok_iff.mp h
    exact ⟨type, q, parsed, hx, rfl⟩
  · rintro ⟨type, q, parsed, hx, wire⟩
    refine ⟨(c.fields, q), readBlock_eq_ok_iff.mpr ⟨type, parsed, hx⟩, ?_⟩
    obtain ⟨fields, wire?⟩ := c
    cases wire
    rfl

/-- The fields that a block stands for are read from what its value splits into. -/
theorem fields_ofBlock {es : List Element} (hb : b.WellFormed) (type : b.type = (kind α).type)
    (h : Element.split b.value = .ok es) :
    (Cached.ofBlock b : Except PacketError (Cached α)).map Cached.fields = read es := by
  rw [Cached.ofBlock, readBlock, LawfulNumbers.expected_eq, if_pos type,
    (Block.parse_eq_ok_iff hb).mpr ⟨es, h, rfl⟩]
  show Except.map _ (Except.map _ (Except.map _ (read es : Except PacketError α))) = _
  cases (read es : Except PacketError α) <;> rfl

end

section

variable {α ε : Type} [Record α] [Usage α ε] {x : α} {b : Block}

/-- Only a block of the right type stands for a record. -/
theorem ReadsBack.type_eq [LawfulNumbers α] (h : ReadsBack b x) : b.type = (kind α).type := by
  obtain ⟨c, hc, -⟩ := h
  exact (ofBlock_eq_ok_iff.mp hc).1

theorem length_of_fits (h : Fits x) : (Layout.wireAll (fields x)).length < 2 ^ 64 :=
  length_of_estimate h.1

end

section

variable {α ε : Type} [Record α] [Usage α ε] [Invariant α] {p : Provenance} {x y : α} {b : Block}

theorem Keeps.encodeFresh (h : Keeps p x y) : encodeFresh y = encodeFresh x := by
  rw [Record.encodeFresh, layout, h.fields]
  rfl

theorem Keeps.fits (h : Keeps p x y) : Fits y ↔ Fits x := by
  rw [Fits, Fits, estimate, estimate, layout, layout, h.fields, h.bare]

theorem Keeps.readsBack (h : Keeps p x y) : ReadsBack b y ↔ ReadsBack b x := by
  rw [ReadsBack, ReadsBack, h.fields, h.bare]

/-- What encodes a record encodes any other that is written in the same way. -/
theorem Encodes.keeps (hb : Encodes p b x) (h : Keeps p x y) : Encodes p b y where
  wellFormed := hb.wellFormed
  parsed := hb.parsed
  readsBack fits := h.readsBack.mpr (hb.readsBack (h.fits.mp fits))
  fresh built fits := by
    rw [h.encodeFresh]
    exact hb.fresh built (h.fits.mp fits)

end

variable {α ε : Type} [Record α] [Editable α ε] [Usage α ε] [Invariant α] [LawfulRecord α ε]
  {p : Provenance} {x : α}

/-- What the encoding of a record that fits is. -/
theorem encodeFresh?_eq (hx : Invariant.Valid p x) (fits : Fits x) :
    encodeFresh? x = .ok ⟨.make (kind α).type (Layout.wireAll (fields x)),
      some (children x)⟩ := by
  rw [← LawfulNumbers.written_eq]
  exact Layout.encode_group (LawfulRecord.areFields hx) (length_of_fits fits)

theorem encodeFresh?_eq_ok (hx : Invariant.Valid p x) (fits : Fits x) :
    encodeFresh? x = .ok (encodeFresh x) := by
  have := encodeFresh?_eq hx fits
  rw [encodeFresh, Layout.encode_of_encode? this]
  exact this

/-- A record that fits is encoded, and its encoding stands for it. -/
theorem readsBack_encodeFresh (hx : Invariant.Valid p x) (fits : Fits x) :
    ReadsBack (encodeFresh x) x := by
  have encoded := Layout.encode_of_encode? (encodeFresh?_eq hx fits)
  obtain ⟨y, hy, bare, same⟩ := LawfulRecord.read_children hx (length_of_fits fits) fits.2
  -- the block is split already, into the children that `read_children` speaks of
  refine ⟨⟨y, some (encodeFresh x)⟩, ?_, bare, same⟩
  rw [encodeFresh, encoded, ofBlock_eq_ok_iff]
  exact ⟨rfl, _, rfl, hy, rfl⟩

theorem encodes_encodeFresh (hx : Invariant.Valid p x) : Encodes p (encodeFresh x) x where
  wellFormed := (wellFormed_encodeFresh x).1
  parsed := (wellFormed_encodeFresh x).2
  readsBack := readsBack_encodeFresh hx
  fresh _ _ := rfl

end Record

/-! ### Single steps -/

namespace Cached

section

variable {α ε : Type} [Record α] [Usage α ε] [Invariant α] {p : Provenance} {x : α} {c : Cached α}

/-- A record without an encoding is sound when its fields are. -/
theorem sound_of_unencoded (h : Invariant.Valid p c.fields) (none : c.wire? = none) :
    c.Sound p where
  valid := h
  encodes b hb := by
    rw [none] at hb
    cases hb

theorem Sound.coherent [Record.LawfulNumbers α] (h : c.Sound p) : c.Coherent := by
  intro b hb fits
  have readsBack := (h.encodes b hb).readsBack fits
  exact ⟨readsBack.type_eq, readsBack⟩

theorem Sound.keeps (h : c.Sound p) (hx : Record.Keeps p c.fields x) :
    Sound p { c with fields := x } :=
  ⟨hx.valid, fun b hb => (h.encodes b hb).keeps hx⟩

end

variable {α ε : Type} [Record α] [Editable α ε] [Usage α ε] [Invariant α] [LawfulRecord α ε]
  {p : Provenance} {b : Block} {bs : Bytes} {c : Cached α}

/-- The encoding of a sound record, kept or not. -/
theorem Sound.encoding (h : c.Sound p) : Record.Encodes p c.encoding c.fields := by
  obtain ⟨fields, wire?⟩ := c
  cases wire? with
  | some b => exact h.encodes b rfl
  | none => exact Record.encodes_encodeFresh h.valid

/-- Encoding keeps a record sound. -/
theorem Sound.encode (h : c.Sound p) : c.encode.2.Sound p := by
  obtain ⟨fields, wire?⟩ := c
  cases wire? with
  | some b => exact h
  | none =>
    -- the fields are written now, which may leave encodings in the records inside
    have keeps := LawfulRecord.keeps_settle h.valid
    refine ⟨keeps.valid, ?_⟩
    intro b hb
    cases hb
    exact (Record.encodes_encodeFresh h.valid).keeps keeps

theorem Sound.settled (h : c.Sound p) : c.settled.Sound p :=
  h.keeps (LawfulRecord.keeps_settle h.valid)

/-- A decoded record is sound: it keeps the block that it was read from. -/
theorem sound_ofBlock (hb : b.WellFormed) (h : ofBlock b = .ok c) : c.Sound .received := by
  obtain ⟨type, q, parsed, read, wire⟩ := Record.ofBlock_eq_ok_iff.mp h
  have wellFormed := Block.wellFormed_of_parse hb parsed
  have split : q.isParsed = true := by
    obtain ⟨es, -, rfl⟩ := (Block.parse_eq_ok_iff hb).mp parsed
    rfl
  -- the block that is kept is the one that was read, split: it reads as the same record again
  have again : ofBlock q = .ok c := by
    obtain ⟨es, -, rfl⟩ := (Block.parse_eq_ok_iff hb).mp parsed
    exact Record.ofBlock_eq_ok_iff.mpr ⟨type, _, rfl, read, wire⟩
  refine ⟨LawfulRecord.valid_read (fun e => Block.wellFormed_children wellFormed) read, ?_⟩
  intro r hr
  rw [wire] at hr
  cases hr
  exact ⟨wellFormed, split, fun _ => ⟨c, again, (LawfulRecord.onWire_read read).symm, rfl⟩,
    fun built => by cases built⟩

theorem sound_ofWire (h : ofWire bs = .ok c) : c.Sound .received := by
  rw [ofWire] at h
  split at h
  · cases h
  · rename_i b hb
    exact sound_ofBlock (Block.wellFormed_of_decode hb) h

end Cached

/-! ### Histories -/

section

variable {α ε : Type} [Record α] [Usage α ε] [Invariant α] {p : Provenance}

/-- The record is sound, and so is the copy if one was kept. -/
structure Session.Sound (p : Provenance) (s : Session α) : Prop where
  current : s.current.Sound p
  saved : ∀ h, s.saved? = some h → h.Sound p

theorem Session.sound_iff {s : Session α} : s.Sound p ↔ ∀ h ∈ s.records, h.Sound p := by
  constructor
  · intro hs h held
    rcases List.mem_cons.mp held with rfl | held
    · exact hs.current
    · exact hs.saved h (Option.mem_toList.mp held)
  · intro hs
    refine ⟨hs _ List.mem_cons_self, ?_⟩
    intro h held
    exact hs h (List.mem_cons_of_mem _ (Option.mem_toList.mpr held))

theorem Session.sound_start {h : Held α} (hh : h.Sound p) : (start h).Sound p :=
  ⟨hh, fun _ h => by cases h⟩

omit [Invariant α] in
theorem Operation.Allowed.brings {op : Operation ε} (h : op.Allowed (α := α) p) :
    op.Brings (Usage.Allowed α p) (fun b => p = .received ∧ b.WellFormed) := by
  cases op with
  | edit change => exact h
  | decode b => exact h
  | _ => trivial

variable [Editable α ε] [LawfulRecord α ε]

theorem Held.Obtained.sound {h : Held α} (hh : h.Obtained p) : h.Sound p := by
  cases hh with
  | constructed hx =>
    exact Cached.sound_of_unencoded (LawfulRecord.valid_constructed hx) rfl
  | ofBlock hb hc => exact Cached.sound_ofBlock hb hc
  | ofWire hc => exact Cached.sound_ofWire hc

/-- Whatever is done to a sound record leaves it sound, if it may be done to records of its
provenance. -/
theorem Cached.kept_sound : Cached.Kept (α := α) (Cached.Sound p) (Usage.Allowed α p)
    (fun b => p = .received ∧ b.WellFormed) where
  edit allowed h := LawfulRecord.sound_apply allowed h
  ofBlock hb hc := by
    obtain ⟨rfl, hb⟩ := hb
    exact sound_ofBlock hb hc
  encode h := h.encode
  settled h := h.settled
  nested h hx := h.keeps (LawfulRecord.keeps_nested h.valid hx)

variable [Form α]

/-- Any sequence of operations keeps the record and its copy sound. -/
theorem Session.sound_run {s : Session α} {ops : List (Operation ε)} (hs : s.Sound p)
    (allowed : ∀ op ∈ ops, op.Allowed (α := α) p) : (s.run ops).2.Sound p :=
  sound_iff.mpr (forall_records_run Cached.kept_sound
    (fun op hop => (allowed op hop).brings) (sound_iff.mp hs))

/-- Every record that a program can hold is sound. -/
theorem Held.Reachable.sound {h : Held α} (hh : h.Reachable p) : h.Sound p := by
  obtain ⟨first, ops, obtained, allowed, rfl⟩ := hh
  exact (Session.sound_run (Session.sound_start obtained.sound) allowed).current

end

end NamedData
