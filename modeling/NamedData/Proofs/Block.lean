/-
Blocks that the library makes, and what patching one of them does.

A block is well formed when its element is, and when its children, if it shows any, are what its
value splits into.  Decoding, splitting, taking a child and encoding only make well-formed blocks.

* `parse_eq_ok_iff` — splitting a well-formed block gives the same whether it was split before;
* `findWithOffset_eq_some_iff` — where the first child of a type is;
* `patch_of_inside` — patching inside the value writes the bytes over, under the same header;
* `patch_child_eq_ok_iff` — patching exactly the value of a child replaces that value and leaves
  the header, the other children and their places as they were.
-/
import NamedData.Proofs.Overwriting

namespace NamedData

namespace Block

/-- The element is well formed, and the children, if there are any, are what the value splits
into. -/
structure WellFormed (b : Block) : Prop where
  element : b.element.WellFormed
  children : ∀ es, b.children? = some es → Element.split b.value = .ok es

theorem size_eq (b : Block) : b.size = b.valueOffset + b.value.length := b.element.size_eq

theorem wellFormed_ofElement {e : Element} (h : e.WellFormed) : (ofElement e).WellFormed :=
  ⟨h, fun _ h => by cases h⟩

theorem decode_eq_ok_iff {bs : Bytes} {b : Block} :
    decode bs = .ok b ↔ b.element.WellFormed ∧ b.children? = none ∧ b.wire = bs := by
  unfold decode
  rw [map_eq_ok]
  constructor
  · rintro ⟨e, he, rfl⟩
    obtain ⟨wellFormed, wire⟩ := Element.decode_eq_ok_iff.mp he
    exact ⟨wellFormed, rfl, wire⟩
  · rintro ⟨wellFormed, unsplit, wire⟩
    refine ⟨b.element, Element.decode_eq_ok_iff.mpr ⟨wellFormed, wire⟩, ?_⟩
    cases b
    cases unsplit
    rfl

theorem wellFormed_of_decode {bs : Bytes} {b : Block} (h : decode bs = .ok b) : b.WellFormed := by
  obtain ⟨wellFormed, unsplit, -⟩ := decode_eq_ok_iff.mp h
  exact ⟨wellFormed, fun es hes => by rw [unsplit] at hes; cases hes⟩

theorem wellFormed_empty : Block.empty.WellFormed := by
  refine ⟨⟨0, rfl, rfl⟩, fun es hes => ?_⟩
  cases hes
  exact Element.split_nil

/-- Splitting a well-formed block gives what its value splits into, split before or not. -/
theorem parse_eq_ok_iff {b p : Block} (hb : b.WellFormed) :
    b.parse = .ok p ↔ ∃ es, Element.split b.value = .ok es ∧ p = ⟨b.element, some es⟩ := by
  obtain ⟨element, children?⟩ := b
  cases children? with
  | some es =>
    have hes := hb.children es rfl
    constructor
    · intro h
      cases h
      exact ⟨es, hes, rfl⟩
    · rintro ⟨ds, hds, rfl⟩
      rw [hes] at hds
      cases hds
      rfl
  | none =>
    show (Element.split _).map _ = _ ↔ _
    rw [map_eq_ok]
    constructor
    · rintro ⟨es, hes, rfl⟩
      exact ⟨es, hes, rfl⟩
    · rintro ⟨es, hes, rfl⟩
      exact ⟨es, hes, rfl⟩

theorem parse_eq_error_iff {b : Block} {e : TlvError} (hb : b.WellFormed) :
    b.parse = .error e ↔ Element.split b.value = .error e := by
  obtain ⟨element, children?⟩ := b
  cases children? with
  | some es =>
    have hes := hb.children es rfl
    rw [hes]
    constructor
    · intro h
      cases h
    · intro h
      cases h
  | none => exact map_eq_error

theorem wellFormed_of_parse {b p : Block} (hb : b.WellFormed) (h : b.parse = .ok p) :
    p.WellFormed := by
  obtain ⟨es, hes, rfl⟩ := (parse_eq_ok_iff hb).mp h
  exact ⟨hb.element, fun ds hds => by cases hds; exact hes⟩

/-- Splitting again does nothing. -/
theorem parse_of_isParsed {b : Block} (h : b.isParsed = true) : b.parse = .ok b := by
  obtain ⟨element, children?⟩ := b
  cases children? with
  | some es => rfl
  | none => cases h

/-- Whether a block was split before makes no difference to splitting it. -/
theorem parse_ofElement {b : Block} (hb : b.WellFormed) :
    (ofElement b.element).parse = b.parse := by
  have same : ∀ p, (ofElement b.element).parse = .ok p ↔ b.parse = .ok p := fun p => by
    rw [parse_eq_ok_iff hb, parse_eq_ok_iff (wellFormed_ofElement hb.element)]
    rfl
  obtain ⟨element, children?⟩ := b
  cases children? with
  | none => rfl
  | some es => exact (same _).mpr rfl

theorem wellFormed_children {b : Block} (hb : b.WellFormed) {e : Element}
    (he : e ∈ b.children) : e.WellFormed := by
  obtain ⟨element, children?⟩ := b
  cases children? with
  | none => cases he
  | some es => exact (Element.split_eq_ok_iff.mp (hb.children es rfl)).1 e he

/-! ### Finding a child -/

theorem findFrom_eq_some_iff {type : UInt64} {offset o : Nat} {es : List Element} {e : Element} :
    findFrom type offset es = some (o, e) ↔
      ∃ front behind, es = front ++ e :: behind ∧ (∀ d ∈ front, d.type ≠ type) ∧
        e.type = type ∧ o = offset + (Element.wireAll front).length := by
  induction es generalizing offset with
  | nil => simp [findFrom]
  | cons d es ih =>
    by_cases hd : d.type = type
    · rw [findFrom, if_pos hd]
      constructor
      · intro h
        cases h
        exact ⟨[], es, rfl, by simp, hd, by simp⟩
      · rintro ⟨front, behind, hes, others, he, ho⟩
        cases front with
        | nil =>
          cases hes
          simp [ho]
        | cons c front =>
          cases hes
          exact absurd hd (others d List.mem_cons_self)
    · rw [findFrom, if_neg hd, ih]
      constructor
      · rintro ⟨front, behind, rfl, others, he, rfl⟩
        refine ⟨d :: front, behind, rfl, ?_, he, ?_⟩
        · intro c hc
          rcases List.mem_cons.mp hc with rfl | hc
          · exact hd
          · exact others c hc
        · rw [Element.wireAll_cons, List.length_append, Element.size]
          omega
      · rintro ⟨front, behind, hes, others, he, rfl⟩
        cases front with
        | nil =>
          cases hes
          exact absurd he hd
        | cons c front =>
          cases hes
          refine ⟨front, behind, rfl, fun c hc => others c (List.mem_cons_of_mem d hc), he, ?_⟩
          rw [Element.wireAll_cons, List.length_append, Element.size]
          omega

/-- The first child of a type comes after all the children before it, none of them of the type. -/
theorem findWithOffset_eq_some_iff {b : Block} {type : UInt64} {offset : Nat} {e : Element} :
    b.findWithOffset? type = some (offset, e) ↔
      ∃ front behind, b.children = front ++ e :: behind ∧ (∀ d ∈ front, d.type ≠ type) ∧
        e.type = type ∧ offset = b.valueOffset + (Element.wireAll front).length :=
  findFrom_eq_some_iff

/-! ### Patching -/

/-- A header followed by another value is an element exactly when the value has the length that
the header says. -/
theorem decode_header_append {e d : Element} (he : e.WellFormed) {v : Bytes} :
    Element.decode (e.header ++ v) = .ok d ↔
      v.length = e.value.length ∧ d = { e with value := v } := by
  obtain ⟨length, header, value⟩ := he
  rw [Element.decode_eq_ok_iff]
  constructor
  · rintro ⟨⟨length', header', value'⟩, wire⟩
    -- both elements begin with the same header
    have front := Element.readHeader_take_append header' d.value
    rw [List.take_length] at front
    change Element.readHeader d.wire = _ at front
    have behind := Element.readHeader_take_append header v
    rw [List.take_length, ← wire, front] at behind
    injection behind with behind
    injection behind with type behind
    injection behind with length_eq size
    subst length_eq
    have parts : d.header ++ d.value = e.header ++ v := wire
    obtain ⟨sameHeader, rfl⟩ := List.append_inj parts size
    refine ⟨by omega, ?_⟩
    obtain ⟨dtype, dheader, dvalue⟩ := d
    cases sameHeader
    cases type
    rfl
  · rintro ⟨size, rfl⟩
    exact ⟨⟨length, header, by rw [← value]; exact size⟩, rfl⟩

/-- The block with other children and the same header. -/
def withChildren (b : Block) (es : List Element) : Block :=
  ⟨{ b.element with value := Element.wireAll es }, some es⟩

/-- The block before it is split, with bytes of its value written over. -/
def overwritten (b : Block) (offset : Nat) (bs : Bytes) : Block :=
  ofElement (b.element.overwriteValue (offset - b.valueOffset) bs)

theorem wire_overwritten {b : Block} {offset : Nat} {bs : Bytes} (start : b.valueOffset ≤ offset) :
    (b.overwritten offset bs).wire = overwriteAt b.wire offset bs :=
  (overwriteAt_append_of_le start).symm

/-- A region inside the value is written over, and then the block is split if it was split
before. -/
theorem patch_of_inside {b : Block} {offset : Nat} {bs : Bytes} (hb : b.WellFormed)
    (start : b.valueOffset ≤ offset) (stop : offset + bs.length ≤ b.size)
    (counted : offset + bs.length ≤ maxPosition) :
    b.patch offset bs = if b.isParsed then (b.overwritten offset bs).parse
      else .ok (b.overwritten offset bs) := by
  have sum := b.size_eq
  have size : (overwriteAt b.value (offset - b.valueOffset) bs).length = b.value.length :=
    length_overwriteAt (by omega)
  -- the header says the same length, so decoding does not fail
  have decoded : decode (b.wire.take offset ++ bs ++ b.wire.drop (offset + bs.length)) =
      .ok (b.overwritten offset bs) := by
    show decode (overwriteAt b.wire offset bs) = _
    rw [← wire_overwritten start]
    exact map_eq_ok.mpr ⟨_, (decode_header_append hb.element).mpr ⟨size, rfl⟩, rfl⟩
  rw [patch, if_neg (by omega), Nat.min_eq_left counted, decoded, ok_bind]
  rfl

/-- Patching a block that was split, when the region lies inside its value. -/
theorem patch_of_isParsed {b : Block} {offset : Nat} {bs : Bytes} (parsed : b.isParsed = true)
    (start : b.valueOffset ≤ offset) (stop : min (offset + bs.length) maxPosition ≤ b.size) :
    b.patch offset bs = (decode (b.wire.take offset ++ bs ++
      b.wire.drop (min (offset + bs.length) maxPosition)) >>= parse) := by
  rw [patch, if_neg (by omega)]
  simp only [parsed, if_true]

/-- Patching gives nothing but well-formed blocks, and splits those that were split before. -/
theorem wellFormed_of_patch {b p : Block} {offset : Nat} {bs : Bytes}
    (h : b.patch offset bs = .ok p) : p.WellFormed ∧ (b.isParsed = true → p.isParsed = true) := by
  rw [patch] at h
  split at h
  · cases h
  · obtain ⟨q, hq, h⟩ := bind_eq_ok.mp h
    have wellFormed := wellFormed_of_decode hq
    split at h
    · refine ⟨wellFormed_of_parse wellFormed h, fun _ => ?_⟩
      obtain ⟨es, -, rfl⟩ := (parse_eq_ok_iff wellFormed).mp h
      rfl
    · rename_i unsplit
      cases h
      exact ⟨wellFormed, fun split => absurd split unsplit⟩

section

variable {b p : Block} {front behind : List Element} {e : Element} {bs : Bytes}

/-- The bytes of a block in front of the value of one of its children. -/
def before (b : Block) (front : List Element) (e : Element) : Bytes :=
  b.element.header ++ Element.wireAll front ++ e.header

theorem length_before : (before b front e).length =
    b.valueOffset + (Element.wireAll front).length + e.valueOffset := by
  rw [before, List.length_append, List.length_append]
  rfl

theorem wire_eq_around (hb : b.WellFormed) (split : b.children? = some (front ++ e :: behind)) :
    b.wire = before b front e ++ e.value ++ Element.wireAll behind := by
  have value := (Element.split_eq_ok_iff.mp (hb.children _ split)).2
  have wire : b.wire = b.element.header ++ b.value := rfl
  rw [wire, ← value, before, Element.wireAll_append, Element.wireAll_cons, Element.wire]
  simp only [List.append_assoc]

theorem size_eq_around (hb : b.WellFormed) (split : b.children? = some (front ++ e :: behind)) :
    b.size = (before b front e).length + e.value.length + (Element.wireAll behind).length := by
  show b.wire.length = _
  rw [wire_eq_around hb split, List.length_append, List.length_append]

/-- The bytes before the value of a child come first in the block. -/
theorem take_before (hb : b.WellFormed) (split : b.children? = some (front ++ e :: behind)) :
    b.wire.take (before b front e).length = before b front e := by
  rw [wire_eq_around hb split, List.append_assoc, List.take_left' rfl]

/-- Replacing the value of a child by one of the same length. -/
theorem patch_child (hb : b.WellFormed) (split : b.children? = some (front ++ e :: behind))
    (size : bs.length = e.value.length)
    (counted : (before b front e).length + bs.length ≤ maxPosition) :
    b.patch (before b front e).length bs =
      .ok (b.withChildren (front ++ { e with value := bs } :: behind)) := by
  have total := size_eq_around hb split
  have sum : b.size = b.valueOffset + b.element.value.length := b.size_eq
  have first : (before b front e).length = _ := length_before
  -- the whole value of the child is written over, and the children are still such as they were
  have whole : (before b front e).length - b.valueOffset -
      ((Element.wireAll front).length + e.valueOffset) = 0 := by
    omega
  have still : Element.split (overwriteAt b.value
      ((before b front e).length - b.valueOffset) bs) = _ :=
    Element.split_overwriteAt (hb.children _ split) (by omega) (by omega)
  rw [whole, Element.overwriteValue_zero size] at still
  have wellFormed : (b.overwritten (before b front e).length bs).WellFormed :=
    wellFormed_ofElement
      (Element.wellFormed_withValue hb.element (length_overwriteAt (by omega)))
  rw [patch_of_inside hb (by omega) (by omega) counted,
    if_pos (by rw [isParsed, split]; rfl), parse_eq_ok_iff wellFormed]
  refine ⟨_, still, ?_⟩
  rw [withChildren, (Element.split_eq_ok_iff.mp still).2]
  rfl

/-- A region that ends past the last position makes more bytes than there were, which are no
element any more. -/
theorem patch_child_past_end (hb : b.WellFormed)
    (split : b.children? = some (front ++ e :: behind)) (size : bs.length = e.value.length)
    (past : maxPosition < (before b front e).length + bs.length) :
    b.patch (before b front e).length bs ≠ .ok p := by
  have total := size_eq_around hb split
  have start : b.valueOffset ≤ (before b front e).length := by
    rw [length_before]
    omega
  rw [patch_of_isParsed (by rw [isParsed, split]; rfl) start (by omega),
    Nat.min_eq_right (by omega), take_before hb split]
  intro h
  obtain ⟨q, hq, -⟩ := bind_eq_ok.mp h
  obtain ⟨d, hd, -⟩ := map_eq_ok.mp hq
  -- everything after the header of the block, and it is longer than the header says
  have regroup : before b front e ++ bs ++ b.wire.drop maxPosition =
      b.element.header ++
        (Element.wireAll front ++ e.header ++ bs ++ b.wire.drop maxPosition) := by
    rw [before]
    simp only [List.append_assoc]
  rw [regroup, decode_header_append hb.element] at hd
  have sum := b.size_eq
  have rest : (b.wire.drop maxPosition).length = b.size - maxPosition := List.length_drop
  have header : e.valueOffset = e.header.length := rfl
  have lengths : _ = b.value.length := hd.1
  simp only [List.length_append, rest] at lengths
  rw [length_before] at past total
  omega

/-- Patching exactly the value of a child replaces it, as long as positions can be counted so
far, and fails otherwise. -/
theorem patch_child_eq_ok_iff (hb : b.WellFormed)
    (split : b.children? = some (front ++ e :: behind)) (size : bs.length = e.value.length) :
    b.patch (b.valueOffset + (Element.wireAll front).length + e.valueOffset) bs = .ok p ↔
      (before b front e).length + bs.length ≤ maxPosition ∧
        p = b.withChildren (front ++ { e with value := bs } :: behind) := by
  rw [← length_before]
  by_cases counted : (before b front e).length + bs.length ≤ maxPosition
  · rw [patch_child hb split size counted]
    constructor
    · intro h
      cases h
      exact ⟨counted, rfl⟩
    · rintro ⟨-, rfl⟩
      rfl
  · constructor
    · intro h
      exact absurd h (patch_child_past_end hb split size (by omega))
    · rintro ⟨h, -⟩
      exact absurd h counted

end

end Block

end NamedData
