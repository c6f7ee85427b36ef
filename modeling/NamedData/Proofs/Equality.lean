/-
Without decoded material, records are their fields.

A record that came about from constructors and changes alone has, whatever was done to it on the
way, the encoding that a fresh record with its fields would get.  Since that encoding decodes to
the fields, two such records are equal exactly when their fields are.

* `Block.eq_of_wire_eq` — blocks that were split are the same when their bytes are;
* `Held.encode_and_compare` — encoding and comparing depend on nothing but the fields.
-/
import NamedData.Proofs.Coherence

namespace NamedData

/-- Blocks that were split are the same when their bytes are. -/
theorem Block.eq_of_wire_eq {b p : Block} (hb : b.WellFormed) (hp : p.WellFormed)
    (splitB : b.isParsed = true) (splitP : p.isParsed = true) (h : b.wire = p.wire) : b = p := by
  have same : b.element = p.element := Element.eq_of_wire_eq hb.element hp.element h
  obtain ⟨element, children?⟩ := b
  obtain ⟨element', children?'⟩ := p
  cases same
  cases children? with
  | none => cases splitB
  | some es =>
    cases children?' with
    | none => cases splitP
    | some ds =>
      have hes : Element.split element.value = .ok es := hb.children es rfl
      have hds : Element.split element.value = .ok ds := hp.children ds rfl
      rw [hes] at hds
      cases hds
      rfl

namespace Held

section

variable {α ε : Type} [Record α] [Editable α ε] [Usage α ε] [Invariant α] [LawfulRecord α ε]
  {c d : Cached α}

/-- The encoding of a record that came about without decoded material. -/
theorem encoding_of_built (h : c.Sound .built) (fits : Record.Fits c.fields) :
    c.encoding = Record.encodeFresh (Usage.bare c.fields) := by
  rw [h.encoding.fresh rfl fits, Record.encodeFresh, Record.encodeFresh, Record.layout,
    Record.layout, LawfulRecord.fields_bare h.valid fits.2]

/-- Records whose encodings are the same bytes have the same fields, as far as the wire carries
them. -/
theorem onWire_eq_of_encoding_eq {p : Provenance} (hc : c.Sound p) (hd : d.Sound p)
    (fitsC : Record.Fits c.fields) (fitsD : Record.Fits d.fields)
    (h : c.encoding.wire = d.encoding.wire) :
    Usage.onWire (Usage.bare c.fields) = Usage.onWire (Usage.bare d.fields) := by
  have encodesC := hc.encoding
  have encodesD := hd.encoding
  have same := Block.eq_of_wire_eq encodesC.wellFormed encodesD.wellFormed encodesC.parsed
    encodesD.parsed h
  obtain ⟨x, hx, fieldsX, -⟩ := encodesC.readsBack fitsC
  obtain ⟨y, hy, fieldsY, -⟩ := encodesD.readsBack fitsD
  rw [same, hy] at hx
  cases hx
  rw [← fieldsX, fieldsY]

end

/-- Two packets, or two sets of selectors, of one kind that came about from constructors and
changes alone. Each is encoded as a fresh one with its fields would be, and they are equal exactly
when all their fields are. -/
theorem encode_and_compare (k : Kind) (unrounded : k.isStatus = false)
    (x y : Held k.recordType.Fields) (hx : x.Reachable .built) (hy : y.Reachable .built)
    (fitsX : Record.Fits x.fields) (fitsY : Record.Fits y.fields) :
    x.encode.1 = Record.encodeFresh (Usage.bare x.fields) ∧
      y.encode.1 = Record.encodeFresh (Usage.bare y.fields) ∧
      ((x.compare y.toCached).1 = true ↔ Record.SameFields x.fields y.fields) := by
  have encodedX := encoding_of_built hx.sound fitsX
  have encodedY := encoding_of_built hy.sound fitsY
  have verdict : (x.compare y.toCached).1 = (x.encoding.wire == y.encoding.wire) := by
    show (x.encode.1.wire == y.encode.1.wire) = _
    rw [Cached.encode_fst, Cached.encode_fst]
  refine ⟨?_, ?_, ?_⟩
  · rw [Cached.encode_fst, encodedX]
  · rw [Cached.encode_fst, encodedY]
  · rw [verdict, beq_iff_eq]
    constructor
    · intro h
      have := onWire_eq_of_encoding_eq hx.sound hy.sound fitsX fitsY h
      rwa [Kind.onWire_eq_self unrounded, Kind.onWire_eq_self unrounded] at this
    · intro h
      rw [encodedX, encodedY, h]

/-- An announcement whose nonce is overwritten inside its encoding, with a face noted beside it,
equals one that was made with that nonce. -/
theorem encode_and_compare_announcements :
    let x := ((Session.start (ofFields (Announcement.create ⟨[⟨[97]⟩]⟩ 1 none))).run
      [.encode, .edit (.setNonce 7), .editHeader (.incomingFace 3)]).2.current
    let y := ofFields (Announcement.create ⟨[⟨[97]⟩]⟩ 7 none)
    (x.compare y.toCached).1 = true ∧ x.encode.1 = Record.encodeFresh y.fields := by
  intro x y
  have allowed : ∀ op ∈ [Operation.encode, .edit (Announcement.Edit.setNonce 7),
      .editHeader (.incomingFace 3)], op.Allowed (α := Announcement) .built := by
    simp [Operation.Allowed, Usage.Allowed]
  have hx : x.Reachable .built :=
    ⟨_, _, .constructed (.inr ⟨⟨[⟨[97]⟩]⟩, 1, none, rfl⟩), allowed, rfl⟩
  have hy : y.Reachable .built :=
    ⟨y, [], .constructed (.inr ⟨⟨[⟨[97]⟩]⟩, 7, none, rfl⟩), by simp, rfl⟩
  have fits : Record.Fits y.fields := ⟨by decide, trivial⟩
  obtain ⟨encoded, -, equal⟩ := encode_and_compare .announcement rfl x y hx hy fits fits
  exact ⟨equal.mpr rfl, encoded⟩

end Held

end NamedData
