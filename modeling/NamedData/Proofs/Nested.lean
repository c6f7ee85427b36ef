/-
Records inside others.

A hint holds a cached record of its own, its selectors, and writes their encoding as it is.  So two
encodings have to agree: that of the hint, and the one that the selectors keep.  Nothing here knows
what a hint is: a kind of record that holds another one says how the one inside is got at and put
back (`Nesting`), and what is true of it follows from there.

* `nestedLayout`, `readNested` — how a record inside another is written and read;
* `readNested_children` — the record inside reads back, and is written in the same way again;
* `Nesting.fields_withInside` — another record inside that is written in the same way changes
  nothing of what is written;
* `Nesting.keeps_settle` — encoding the record inside, and keeping that, changes nothing either.
-/
import NamedData.Proofs.Sound

namespace NamedData

/-! ### Their elements -/

section

variable {α : Type} [Record α]

/-- The element of a record inside another, when there is anything to write. -/
def nestedLayout (present : Bool) (c : Cached α) : List Layout :=
  if present then [Layout.encoded c.encoding.wire] else []

/-- The record inside another that the first child of its type stands for; nothing set when there
is no such child. -/
def readNested (es : List Element) : Except PacketError (Cached α) :=
  match Lookup.first? (Record.kind α).type es with
  | none => .ok { fields := Record.initial }
  | some e => Cached.ofBlock (Block.ofElement e)

/-- Keeping the encoding of a record inside does not change what is written of it. -/
theorem nestedLayout_encode (present : Bool) (c : Cached α) :
    nestedLayout present c.encode.2 = nestedLayout present c := by
  rw [nestedLayout, nestedLayout, Record.encoding_encode]

/-- Nor does it change the fields of one that holds no further records. -/
theorem fields_encode (plain : ∀ x : α, Record.settle x = x) (c : Cached α) :
    c.encode.2.fields = c.fields := by
  obtain ⟨fields, wire?⟩ := c
  cases wire? with
  | some b => rfl
  | none => exact plain fields

theorem areFields_nestedLayout (present : Bool) {c : Cached α} (h : c.encoding.WellFormed) :
    Layout.AreFields (nestedLayout present c) := by
  rw [nestedLayout]
  split
  · intro f hf
    rw [List.mem_singleton] at hf
    subst hf
    exact ⟨c.encoding.element, h.element, rfl⟩
  · exact Layout.areFields_nil

variable {ε : Type} [Editable α ε] [Usage α ε] [Invariant α] [LawfulRecord α ε]
  {p : Provenance} {c d : Cached α} {es : List Element}

/-- Without decoded material a record inside is written as its fields say. -/
theorem nestedLayout_bare (present : Bool) (h : c.Sound .built) (fits : Record.Fits c.fields) :
    nestedLayout present { fields := c.fields } = nestedLayout present c := by
  rw [nestedLayout, nestedLayout, h.encoding.fresh rfl fits]
  rfl

theorem first?_nestedLayout (present : Bool) (type : UInt64) (h : c.Sound p)
    (fits : Record.Fits c.fields) :
    Lookup.first? type ((nestedLayout present c).map Layout.element) =
      if (Record.kind α).type = type ∧ present = true then some c.encoding.element else none := by
  have element : (Layout.encoded c.encoding.wire).element = c.encoding.element :=
    Layout.element_encoded h.encoding.wellFormed.element
  have type_eq : c.encoding.element.type = (Record.kind α).type :=
    (h.encoding.readsBack fits).type_eq
  cases present with
  | false => simp [nestedLayout]
  | true => simp [nestedLayout, element, type_eq]

/-- The record inside reads back, and is written in the same way again. -/
theorem readNested_children {present : Bool} (h : c.Sound p) (fits : Record.Fits c.fields)
    (absent : present = false → c.fields = Record.initial)
    (round : Usage.onWire (Usage.bare (Record.initial : α)) = Usage.bare Record.initial)
    (first : Lookup.first? (Record.kind α).type es =
      if present = true then some c.encoding.element else none) :
    ∃ d : Cached α, readNested es = .ok d ∧
      Usage.bare d.fields = Usage.onWire (Usage.bare c.fields) ∧
      nestedLayout present d = nestedLayout present c := by
  rw [readNested, first]
  cases present with
  | false => exact ⟨_, rfl, by rw [absent rfl, round], rfl⟩
  | true =>
    obtain ⟨d, hd, bare, -⟩ := h.encoding.readsBack fits
    refine ⟨d, ?_, bare, ?_⟩
    · show Cached.ofBlock (Block.ofElement c.encoding.element) = _
      rw [Record.ofBlock_ofElement h.encoding.wellFormed, hd]
    · -- what was decoded keeps the block that it was decoded from
      obtain ⟨-, q, hq, -, wire⟩ := Record.ofBlock_eq_ok_iff.mp hd
      rw [Block.parse_of_isParsed h.encoding.parsed] at hq
      cases hq
      have same : d.encoding = c.encoding := by rw [Cached.encoding, wire]; rfl
      rw [nestedLayout, nestedLayout, same]

theorem sound_of_readNested (hes : ∀ e ∈ es, e.WellFormed)
    (initial : Usage.Constructed (Record.initial : α)) (h : readNested es = .ok d) :
    d.Sound .received := by
  rw [readNested] at h
  split at h
  · cases h
    exact Cached.sound_of_unencoded (LawfulRecord.valid_constructed initial) rfl
  · rename_i e he
    have wellFormed := hes e (Lookup.mem_of_first? he)
    exact Cached.sound_ofBlock (Block.wellFormed_ofElement wellFormed) h

end

/-! ### Their holders -/

/-- A kind of record that holds another one, which has an encoding of its own and holds no further
ones. What is written ends with its element, which is left out when nothing is set in it. -/
class Nesting (α : Type) (β : outParam Type) [Record α] [Record β] where
  inside : α → Cached β
  withInside : α → Cached β → α
  /-- Whether anything is set in the record inside. -/
  present : α → Bool
  /-- What is written in front of its element. -/
  front : α → List Layout
  inside_withInside (x : α) (c : Cached β) : inside (withInside x c) = c := by exact fun _ _ => rfl
  withInside_withInside (x : α) (c d : Cached β) :
    withInside (withInside x c) d = withInside x d := by exact fun _ _ _ => rfl
  front_withInside (x : α) (c : Cached β) : front (withInside x c) = front x := by
    exact fun _ _ => rfl
  fields_eq (x : α) : Record.fields x =
    front x ++ nestedLayout (present x) (inside x) := by exact fun _ => rfl
  settle_eq (x : α) : Record.settle x =
    if present x then withInside x (inside x).encode.2 else x := by exact fun _ => rfl
  encodeNested_eq (x : α) : Record.encodeNested? x =
    some ((inside x).encode.1, withInside x (inside x).encode.2) := by exact fun _ => rfl
  present_eq_false_iff {x : α} : present x = false ↔ (inside x).fields = Record.initial
  settle_inside (y : β) : Record.settle y = y := by exact fun _ => rfl
  encodeNested_inside (y : β) : Record.encodeNested? y = none := by exact fun _ => rfl

namespace Nesting

section

variable {α β : Type} [Record α] [Record β] [Nesting α β] {x : α} {c : Cached β}

/-- The record after the one inside was encoded. -/
def encodeInside (x : α) : α := withInside x (inside x).encode.2

theorem present_withInside (same : c.fields = (inside x).fields) :
    present (withInside x c) = present x := by
  have unset : present (withInside x c) = false ↔ present x = false := by
    rw [present_eq_false_iff, present_eq_false_iff, inside_withInside, same]
  grind

theorem fields_withInside (same : c.fields = (inside x).fields)
    (written : nestedLayout (present x) c = nestedLayout (present x) (inside x)) :
    Record.fields (withInside x c) = Record.fields x := by
  rw [fields_eq, fields_eq, front_withInside, inside_withInside, present_withInside same, written]

theorem fields_encodeInside (x : α) : Record.fields (encodeInside x) = Record.fields x :=
  fields_withInside (fields_encode (settle_inside α) (inside x)) (nestedLayout_encode _ (inside x))

theorem settle_cases (x : α) : Record.settle x = encodeInside x ∨ Record.settle x = x := by
  rw [settle_eq]
  split
  · exact .inl rfl
  · exact .inr rfl

theorem areFields (others : Layout.AreFields (front x))
    (wellFormed : (inside x).encoding.WellFormed) : Layout.AreFields (Record.fields x) := by
  have nested := areFields_nestedLayout (present x) wellFormed
  simp [fields_eq, others, nested]

end

end Nesting

/-- A holder whose fields are such as they should be when the record inside is sound, and that
compares by the fields of the record inside. -/
class LawfulNesting (α : Type) (β ε δ : outParam Type) [Record α] [Record β] [Editable β δ]
    [Nesting α β] [Usage α ε] [Usage β δ] [Invariant α] [Invariant β] : Prop where
  valid_iff {p : Provenance} {x : α} :
    Invariant.Valid p x ↔ (Nesting.inside x).Sound p := by exact Iff.rfl
  bare_eq (x : α) :
    Usage.bare x = Nesting.withInside x { fields := (Nesting.inside x).fields } := by
      exact fun _ => rfl
  bare_inside (y : β) : Usage.bare y = y := by exact fun _ => rfl
  onWire_inside (y : β) : Usage.onWire y = y := by exact fun _ => rfl

namespace Nesting

variable {α β ε δ : Type} [Record α] [Record β] [Editable β δ] [Nesting α β] [Usage α ε]
  [Usage β δ] [Invariant α] [Invariant β] [LawfulNesting α β ε δ] {p : Provenance} {x : α}

include β ε δ

open LawfulNesting

theorem bare_withInside {c : Cached β} (same : c.fields = (inside x).fields) :
    Usage.bare (withInside x c) = Usage.bare x := by
  rw [bare_eq, bare_eq, inside_withInside, withInside_withInside, same]

/-- A holder without an encoding inside might have been built if the record inside might. -/
theorem valid_of_bare (bare : Usage.bare x = x)
    (fields : Invariant.Valid .built (inside x).fields) : Invariant.Valid .built x := by
  have unencoded : (inside x).wire? = none := by
    rw [← bare, bare_eq, inside_withInside]
  exact valid_iff.mpr (Cached.sound_of_unencoded fields unencoded)

variable [LawfulRecord β δ]

theorem keeps_encodeInside (valid : Invariant.Valid p x) : Record.Keeps p x (encodeInside x) where
  valid := by
    rw [valid_iff, encodeInside, inside_withInside]
    exact (valid_iff.mp valid).encode
  fields := fields_encodeInside x
  bare := bare_withInside (fields_encode (settle_inside α) (inside x))

theorem keeps_settle (valid : Invariant.Valid p x) : Record.Keeps p x (Record.settle x) := by
  rcases settle_cases x with same | same <;> rw [same]
  · exact keeps_encodeInside valid
  · exact ⟨valid, rfl, rfl⟩

theorem keeps_encodeNested {y : α} {b : Block} (valid : Invariant.Valid p x)
    (h : Record.encodeNested? x = some (b, y)) : Record.Keeps p x y := by
  rw [encodeNested_eq] at h
  cases h
  exact keeps_encodeInside valid

/-- Without decoded material the record inside is written as its fields say. -/
theorem fields_bare (valid : Invariant.Valid .built x) (fits : Record.Fits (inside x).fields) :
    Record.fields (Usage.bare x) = Record.fields x := by
  rw [bare_eq]
  exact fields_withInside rfl (nestedLayout_bare _ (valid_iff.mp valid) fits)

/-- The record inside reads back, and put in place of the one that was written it is written in the
same way. -/
theorem read_inside (valid : Invariant.Valid p x) (fits : Record.Fits (inside x).fields)
    (others : Lookup.first? (Record.kind β).type ((front x).map Layout.element) = none) :
    ∃ d : Cached β, readNested (Record.children x) = .ok d ∧
      Usage.bare (withInside x d) = Usage.bare x ∧
      Record.fields (withInside x d) = Record.fields x := by
  have sound := valid_iff.mp valid
  have first : Lookup.first? (Record.kind β).type (Record.children x) =
      if present x = true then some (inside x).encoding.element else none := by
    rw [Record.children, fields_eq, List.map_append, Lookup.first?_append, others,
      first?_nestedLayout _ _ sound fits]
    simp
  obtain ⟨d, read, same, written⟩ := readNested_children sound fits present_eq_false_iff.mp
    (onWire_inside (α := α) _) first
  rw [bare_inside (α := α), bare_inside (α := α), onWire_inside (α := α)] at same
  exact ⟨d, read, bare_withInside same, fields_withInside same written⟩

end Nesting

end NamedData
