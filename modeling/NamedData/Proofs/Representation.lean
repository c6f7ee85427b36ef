/-
A block never disagrees with its bytes.

Decoders trust that a block which was split shows the children that its value is made of, and
offsets are found by adding up the sizes of these children.  Both are right because nothing that
makes a block lets element, children and bytes get out of step: `Obtained` lists what makes blocks,
and every block that comes of it, in whatever order, is `Faithful`.

* `Obtained.wellFormed` — each step keeps well-formedness, so every history does;
* `Obtained.faithful` — a block is what decoding its bytes from scratch gives; a child is found
  where its bytes are; and no decoder of records can tell whether a block was split beforehand.
-/
import NamedData.Proofs.Sound

namespace NamedData

namespace Block

/-- The blocks that there are: those that come from bytes, those that encoding makes, the empty
block of type zero among them, and those that come of others by splitting, by taking a child, and by
patching. -/
inductive Obtained : Block → Prop where
  | decode {bs : Bytes} {b : Block} (h : Block.decode bs = .ok b) : Obtained b
  | decodeFirst {bs rest : Bytes} {b : Block} (h : Block.decodeFirst bs = .ok (b, rest)) :
    Obtained b
  | encode (l : Layout) : Obtained l.encode
  | parse {b p : Block} (hb : Obtained b) (h : b.parse = .ok p) : Obtained p
  | child {b : Block} {e : Element} (hb : Obtained b) (h : e ∈ b.children) :
    Obtained (ofElement e)
  | patch {b p : Block} {offset : Nat} {bs : Bytes} (hb : Obtained b)
    (h : b.patch offset bs = .ok p) : Obtained p

/-- Everything that a block says about itself can be read from its bytes. -/
structure Faithful (b : Block) : Prop where
  /-- The bytes are one element, and nothing is left over. -/
  whole : Block.decodeFirst b.wire = .ok (ofElement b.element, [])
  exact : Block.decode b.wire = .ok (ofElement b.element)
  size : b.size = b.valueOffset + b.value.length
  unsplit : b.isParsed = false → b.children = []
  split : b.isParsed = true → (Block.decode b.wire >>= Block.parse) = .ok b ∧
    Element.split b.value = .ok b.children ∧ Element.wireAll b.children = b.value

theorem Obtained.wellFormed {b : Block} (h : b.Obtained) : b.WellFormed := by
  induction h with
  | decode h => exact wellFormed_of_decode h
  | decodeFirst h =>
    obtain ⟨⟨e, rest⟩, he, same⟩ := map_eq_ok.mp h
    cases same
    exact wellFormed_ofElement (Element.wellFormed_of_decodeFirst he)
  | encode l => exact (Layout.wellFormed_encode l).1
  | parse _ h ih => exact wellFormed_of_parse ih h
  | child _ h ih => exact wellFormed_ofElement (wellFormed_children ih h)
  | patch _ h _ => exact (wellFormed_of_patch h).1

theorem children?_of_isParsed {b : Block} (h : b.isParsed = true) :
    b.children? = some b.children := by
  obtain ⟨element, children?⟩ := b
  cases children? with
  | none => cases h
  | some es => rfl

theorem isParsed_of_mem {b : Block} {e : Element} (h : e ∈ b.children) : b.isParsed = true := by
  obtain ⟨element, children?⟩ := b
  cases children? with
  | none => cases h
  | some es => rfl

theorem faithful_of_wellFormed {b : Block} (hb : b.WellFormed) : b.Faithful := by
  have exact : Block.decode b.wire = .ok (ofElement b.element) :=
    decode_eq_ok_iff.mpr ⟨hb.element, rfl, rfl⟩
  refine ⟨?_, exact, b.size_eq, ?_, ?_⟩
  · have first := Element.decodeFirst_wire_append hb.element []
    rw [List.append_nil] at first
    show (Element.decodeFirst b.element.wire).map _ = _
    rw [first]
    rfl
  · intro unsplit
    obtain ⟨element, children?⟩ := b
    cases children? with
    | none => rfl
    | some es => cases unsplit
  · intro split
    have value := hb.children _ (children?_of_isParsed split)
    rw [exact, ok_bind, parse_ofElement hb, parse_of_isParsed split]
    exact ⟨rfl, value, (Element.split_eq_ok_iff.mp value).2⟩

/-! ### Finding children -/

theorem map_snd_findFrom (type : UInt64) (offset : Nat) (es : List Element) :
    (findFrom type offset es).map Prod.snd = es.find? (·.type = type) := by
  induction es generalizing offset with
  | nil => rfl
  | cons e es ih =>
    by_cases h : e.type = type
    · rw [findFrom, if_pos h, List.find?_cons_of_pos (by simpa using h)]
      rfl
    · rw [findFrom, if_neg h, ih, List.find?_cons_of_neg (by simpa using h)]

theorem find_eq_some_iff {b : Block} {type : UInt64} {e : Element} :
    b.find? type = some e ↔ ∃ offset, b.findWithOffset? type = some (offset, e) := by
  rw [find?, ← map_snd_findFrom type b.valueOffset, Option.map_eq_some_iff]
  constructor
  · rintro ⟨⟨offset, d⟩, h, rfl⟩
    exact ⟨offset, h⟩
  · rintro ⟨offset, h⟩
    exact ⟨(offset, e), h, rfl⟩

/-- The bytes of a child stand behind the header and the children before it. -/
theorem drop_wire {b : Block} (hb : b.WellFormed) {front behind : List Element} {e : Element}
    (split : b.children? = some (front ++ e :: behind)) :
    b.wire.drop (b.valueOffset + (Element.wireAll front).length) =
      e.wire ++ Element.wireAll behind := by
  have header : (b.element.header ++ Element.wireAll front).length =
      b.valueOffset + (Element.wireAll front).length := List.length_append
  rw [wire_eq_around hb split, before, List.append_assoc _ e.header, List.append_assoc, ← header,
    List.drop_left' rfl]
  rfl

/-- Whatever way a block came about, decoding its bytes from scratch uses all of them and gives the
block again, and its children if it was split are those that its value is made of.  The first child
of a type is found with an offset exactly if it is found without, and its bytes begin there.  A
record of any kind is decoded from the block as from one that was never split, and as from the one
that splitting it gives. -/
theorem Obtained.faithful {b : Block} (h : b.Obtained) :
    b.Faithful ∧
    (∀ type e, b.find? type = some e ↔ ∃ offset, b.findWithOffset? type = some (offset, e)) ∧
    (∀ type offset e, b.findWithOffset? type = some (offset, e) →
      (∃ front behind, b.children = front ++ e :: behind ∧ e.type = type ∧
        ∀ d ∈ front, d.type ≠ type) ∧
      offset + e.size ≤ b.size ∧ (b.wire.drop offset).take e.size = e.wire) ∧
    ∀ k : Kind, ∀ p, p = ofElement b.element ∨ b.parse = .ok p →
      (Cached.ofBlock p : Except PacketError (Cached k.recordType.Fields)) = Cached.ofBlock b := by
  have hb := h.wellFormed
  refine ⟨faithful_of_wellFormed hb, fun _ _ => find_eq_some_iff, ?_, ?_⟩
  · intro type offset e found
    obtain ⟨front, behind, split, others, same, rfl⟩ := findWithOffset_eq_some_iff.mp found
    have shown : e ∈ b.children := by simp [split]
    have parsed := children?_of_isParsed (isParsed_of_mem shown)
    -- from here on the bytes are header, children in front, the child, children behind
    rw [split] at parsed
    refine ⟨⟨front, behind, split, same, others⟩, ?_, ?_⟩
    · have total := size_eq_around hb parsed
      have size := e.size_eq
      rw [length_before] at total
      omega
    · rw [drop_wire hb parsed]
      exact List.take_left' rfl
  · intro k p hp
    rcases hp with rfl | parsed
    · exact Record.ofBlock_ofElement hb
    · -- splitting keeps the element, and decoders read nothing else of a well-formed block
      have same : p.element = b.element := by
        obtain ⟨es, -, rfl⟩ := (parse_eq_ok_iff hb).mp parsed
        rfl
      rw [← Record.ofBlock_ofElement (wellFormed_of_parse hb parsed), same,
        Record.ofBlock_ofElement hb]

/-- An announcement that was received and split, and whose nonce was written over.  The nonce is
found behind the header and the name, and the announcement can be decoded again from the bytes. -/
theorem Obtained.faithful_announcement :
    let name : Element := ⟨7, [7, 0], []⟩
    let nonce (bs : Bytes) : Element := ⟨10, [10, 4], bs⟩
    let received :=
      ofElement ⟨200, [253, 0, 200, 8], Element.wireAll [name, nonce [1, 2, 3, 4]]⟩
    let patched := received.withChildren [name, nonce [9, 9, 9, 9]]
    patched.Obtained ∧ Block.decode patched.wire = .ok (ofElement patched.element) ∧
      patched.findWithOffset? 10 = some (6, nonce [9, 9, 9, 9]) ∧
      (patched.wire.drop 6).take 6 = [10, 4, 9, 9, 9, 9] ∧
      (Cached.ofBlock (ofElement patched.element) : Except PacketError (Cached Announcement)) =
        Cached.ofBlock patched := by
  intro name nonce received patched
  have wellFormed : name.WellFormed ∧ (nonce [1, 2, 3, 4]).WellFormed :=
    ⟨⟨0, rfl, rfl⟩, ⟨4, rfl, rfl⟩⟩
  have hr : received.WellFormed := wellFormed_ofElement ⟨8, rfl, rfl⟩
  let split : Block := ⟨received.element, some [name, nonce [1, 2, 3, 4]]⟩
  have parsed : received.parse = .ok split :=
    (parse_eq_ok_iff hr).mpr ⟨_, Element.split_eq_ok_iff.mpr ⟨by simp [wellFormed], rfl⟩, rfl⟩
  have shown : split.children? = some ([name] ++ nonce [1, 2, 3, 4] :: []) := rfl
  have written : split.patch 8 [9, 9, 9, 9] = .ok patched :=
    patch_child (wellFormed_of_parse hr parsed) shown rfl (by decide)
  have obtained : patched.Obtained :=
    .patch (.parse (.decode (decode_eq_ok_iff.mpr ⟨hr.element, rfl, rfl⟩)) parsed) written
  obtain ⟨faithful, -, located, decoded⟩ := Obtained.faithful obtained
  have found : patched.findWithOffset? 10 = some (6, nonce [9, 9, 9, 9]) := rfl
  exact ⟨obtained, faithful.exact, found, (located _ _ _ found).2.2,
    decoded .announcement _ (.inl rfl)⟩

end Block

end NamedData
