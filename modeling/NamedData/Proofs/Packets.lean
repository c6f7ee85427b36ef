/-
Vicinity requests and their answers, and announcements, are lawful records.

Setting the nonce of an announcement is the one change that keeps an encoding.  It writes over four
bytes inside of it, and these may have come from anywhere.

* `Announcement.patchNonce_children` — when there is room for the new nonce, the first nonce among
  the children becomes it, and nothing else becomes different;
* `Announcement.read_replace` — such children read as the same announcement with another nonce;
* `Announcement.patchNonce_encodeFresh` — patching what encoding wrote gives what encoding the
  changed announcement would write.
-/
import NamedData.Proofs.Sound

namespace NamedData

/-! ### Vicinity requests and answers -/

namespace Vicinity

instance : Invariant Vicinity where

theorem read_children {v : Vicinity} (size : (Layout.wireAll (Record.fields v)).length < 2 ^ 64) :
    Record.read (Record.children v) = .ok v := by
  have name (kind : Kind) : Lookup.name kind (Record.children v) = .ok v.name :=
    Lookup.name_map_element size
  have scope : ∃ scope, Lookup.integer? .vicinity TypeNumber.scope (Record.children v) =
      .ok scope ∧ scope.getD defaultScope = v.scope := by
    apply Lookup.integer?_getD_of_first?
    simp +decide [Record.children, Record.fields]
  obtain ⟨scope, hscope, scope_eq⟩ := scope
  simp only [Record.read, name, hscope, ok_bind, scope_eq]
  rfl

instance : LawfulRecord Vicinity Edit where
  valid_constructed _ := trivial
  valid_read _ _ := trivial
  onWire_read _ := rfl
  areFields _ := by simp [Record.fields]
  read_children {_ v} _ size _ := ⟨v, read_children size, rfl, rfl⟩
  sound_apply {_ change _} _ _ := by
    cases change <;> exact Cached.sound_of_unencoded trivial rfl

end Vicinity

namespace VicinityData

instance : Invariant VicinityData where

theorem read_children {v : VicinityData}
    (size : (Layout.wireAll (Record.fields v)).length < 2 ^ 64) :
    Record.read (Record.children v) = .ok v := by
  have name (kind : Kind) : Lookup.name kind (Record.children v) = .ok v.name :=
    Lookup.name_map_element size
  have nodeId (kind : Kind) :
      Lookup.integer? kind TypeNumber.nodeId (Record.children v) = .ok v.nodeId := by
    apply Lookup.integer?_of_first?
    simp +decide [Record.children, Record.fields]
  simp only [Record.read, name, nodeId, ok_bind]
  rfl

instance : LawfulRecord VicinityData Edit where
  valid_constructed _ := trivial
  valid_read _ _ := trivial
  onWire_read _ := rfl
  areFields _ := by simp [Record.fields]
  read_children {_ v} _ size _ := ⟨v, read_children size, rfl, rfl⟩
  sound_apply {_ change _} _ _ := by
    cases change <;> exact Cached.sound_of_unencoded trivial rfl

end VicinityData

/-! ### Announcements -/

namespace Announcement

/-- The lifetime is one that can travel. -/
instance : Invariant Announcement where
  Valid _ a := a.timeout.wholeMillis = a.timeout

theorem first?_nonce (a : Announcement) :
    Lookup.first? TypeNumber.nonce (Record.children a) =
      a.nonce.map fun n => .make TypeNumber.nonce (nonceBytes n) := by
  obtain ⟨name, nonce, timeout⟩ := a
  by_cases h : timeout = defaultTimeout <;>
    cases nonce <;> simp +decide [Record.children, Record.fields, h]

theorem first?_timeout (a : Announcement) :
    Lookup.first? TypeNumber.timeout (Record.children a) =
      if a.timeout = defaultTimeout then none
      else some (.make TypeNumber.timeout (NonNegativeInteger.encode a.timeout.wireMillis)) := by
  obtain ⟨name, nonce, timeout⟩ := a
  by_cases h : timeout = defaultTimeout <;>
    cases nonce <;> simp +decide [Record.children, Record.fields, h]

theorem findNonce_of_first? {es : List Element} {n : Option UInt32}
    (h : (Lookup.first? TypeNumber.nonce es).map Element.value = n.map nonceBytes) :
    findNonce es = .ok n := by
  rw [findNonce]
  cases first : Lookup.first? TypeNumber.nonce es with
  | none =>
    rw [first] at h
    cases n with
    | none => rfl
    | some n => cases h
  | some e =>
    rw [first] at h
    cases n with
    | none => cases h
    | some n =>
      injection h with value
      show (readNonce e.value).map some = _
      rw [value, readNonce_nonceBytes]
      rfl

/-- What the wire carries of an announcement: its lifetime is cut to whole milliseconds. -/
def cut (a : Announcement) : Announcement := { a with timeout := a.timeout.wholeMillis }

/-- The children that the fields are written to read back as what the wire carries of them. -/
theorem read_children_cut {a : Announcement}
    (size : (Layout.wireAll (Record.fields a)).length < 2 ^ 64) :
    Record.read (Record.children a) = .ok a.cut := by
  have name (kind : Kind) : Lookup.name kind (Record.children a) = .ok a.name :=
    Lookup.name_map_element size
  have nonce : findNonce (Record.children a) = .ok a.nonce := by
    apply findNonce_of_first?
    rw [first?_nonce, Option.map_map]
    rfl
  have timeout : ∃ ms, Lookup.integer? .announcement TypeNumber.timeout (Record.children a) =
      .ok ms ∧ (ms.map Duration.ofMillis).getD defaultTimeout = a.timeout.wholeMillis := by
    by_cases h : a.timeout = defaultTimeout
    · refine ⟨none, Lookup.integer?_of_first? ?_, ?_⟩
      · rw [first?_timeout, if_pos h]
        rfl
      · rw [h]
        exact (Duration.wholeMillis_ofMillis 4000).symm
    · refine ⟨some a.timeout.wireMillis, Lookup.integer?_of_first? ?_, rfl⟩
      rw [first?_timeout, if_neg h]
      rfl
  obtain ⟨ms, hms, timeout_eq⟩ := timeout
  simp only [Record.read, name, nonce, hms, ok_bind, timeout_eq]
  rfl

theorem cut_eq_self {a : Announcement} (valid : a.timeout.wholeMillis = a.timeout) :
    a.cut = a := by
  rw [cut, valid]

theorem read_children {a : Announcement} (valid : a.timeout.wholeMillis = a.timeout)
    (size : (Layout.wireAll (Record.fields a)).length < 2 ^ 64) :
    Record.read (Record.children a) = .ok a := by
  rw [read_children_cut size, cut_eq_self valid]

/-! ### Changes -/

/-- A change comes to setting a nonce if it does not drop the encoding, or to nothing at all. -/
theorem apply_cases {P : Cached Announcement → Prop} {c : Cached Announcement}
    (name : ∀ name, P (c.edit fun a => { a with name := name }))
    (timeout : ∀ t : Duration, P (c.edit fun a => { a with timeout := t.wholeMillis }))
    (nonce : ∀ n, P (withNonce n c)) (same : P c) (change : Edit) : P (change.apply c) := by
  cases change with
  | setName n => exact name n
  | setTimeout t => exact timeout t
  | setNonce n => exact nonce n
  | ensureNonce draw =>
    rw [Edit.apply, ensureNonce]
    split
    · exact same
    · exact nonce draw
  | refreshNonce draws =>
    rw [Edit.apply, refreshNonce]
    split
    · exact same
    · split
      · exact nonce _
      · exact same

/-! ### Setting the nonce inside an encoding -/

section

variable {a : Announcement} {b p : Block} {n : UInt32} {front behind : List Element} {e : Element}

/-- There is room for the new nonce when the first nonce among the children takes four bytes, and
then these are patched. -/
theorem patchNonce_eq_some (h : patchNonce? b n = some p) :
    ∃ front e behind, b.children = front ++ e :: behind ∧
      (∀ d ∈ front, d.type ≠ TypeNumber.nonce) ∧ e.type = TypeNumber.nonce ∧
      e.value.length = 4 ∧
      b.patch (b.valueOffset + (Element.wireAll front).length + e.valueOffset) (nonceBytes n) =
        .ok p := by
  rw [patchNonce?] at h
  split at h
  · cases h
  · rename_i offset e found
    obtain ⟨front, behind, children, others, type, rfl⟩ :=
      Block.findWithOffset_eq_some_iff.mp found
    split at h
    · rename_i four
      cases patched : b.patch (b.valueOffset + (Element.wireAll front).length + e.valueOffset)
          (nonceBytes n) with
      | error cause =>
        rw [patched] at h
        cases h
      | ok q =>
        rw [patched] at h
        cases h
        exact ⟨front, e, behind, children, others, type, four, patched⟩
    · cases h

/-- The first nonce among the children becomes the new one, and nothing else becomes different. -/
theorem patchNonce_children (hb : b.WellFormed) (parsed : b.isParsed = true)
    (h : patchNonce? b n = some p) :
    ∃ front e behind, b.children = front ++ e :: behind ∧
      (∀ d ∈ front, d.type ≠ TypeNumber.nonce) ∧ e.type = TypeNumber.nonce ∧
      p = b.withChildren (front ++ { e with value := nonceBytes n } :: behind) := by
  obtain ⟨front, e, behind, children, others, type, four, patched⟩ := patchNonce_eq_some h
  have split : b.children? = some (front ++ e :: behind) := by
    rw [← children]
    obtain ⟨element, children?⟩ := b
    cases children? with
    | none => cases parsed
    | some es => rfl
  have size : (nonceBytes n).length = e.value.length := by
    rw [length_nonceBytes, four]
  exact ⟨front, e, behind, children, others, type,
    ((Block.patch_child_eq_ok_iff hb split size).mp patched).2⟩

/-- Such children read as the same announcement with another nonce. -/
theorem read_replace (h : Record.read (front ++ e :: behind) = .ok a)
    (others : ∀ d ∈ front, d.type ≠ TypeNumber.nonce) (type : e.type = TypeNumber.nonce) :
    Record.read (front ++ { e with value := nonceBytes n } :: behind) =
      .ok { a with nonce := some n } := by
  -- what is looked up under any other type is found where it was
  have elsewhere (field : UInt64) (apart : TypeNumber.nonce ≠ field) :
      Lookup.first? field (front ++ { e with value := nonceBytes n } :: behind) =
        Lookup.first? field (front ++ e :: behind) := by
    apply Lookup.first?_replace
    · show e.type ≠ field
      rwa [type]
    · rwa [type]
  have nonce : findNonce (front ++ { e with value := nonceBytes n } :: behind) = .ok (some n) := by
    have replaced : Element.type { e with value := nonceBytes n } = TypeNumber.nonce := type
    apply findNonce_of_first?
    rw [Lookup.first?_append_cons others replaced]
    rfl
  obtain ⟨name, hname, h⟩ := bind_eq_ok.mp h
  obtain ⟨old, -, h⟩ := bind_eq_ok.mp h
  obtain ⟨ms, hms, h⟩ := bind_eq_ok.mp h
  cases h
  have hname' : Lookup.name .announcement (front ++ { e with value := nonceBytes n } :: behind) =
      .ok name := by
    rw [← hname, Lookup.name, Lookup.name, elsewhere _ (by decide)]
  have hms' : Lookup.integer? .announcement TypeNumber.timeout
      (front ++ { e with value := nonceBytes n } :: behind) = .ok ms := by
    rw [← hms, Lookup.integer?, Lookup.integer?, elsewhere _ (by decide)]
  simp only [Record.read, hname', nonce, hms', ok_bind]
  rfl

theorem areFields (a : Announcement) : Layout.AreFields (Record.fields a) := by
  obtain ⟨name, nonce, timeout⟩ := a
  by_cases h : timeout = defaultTimeout <;> cases nonce <;> simp [Record.fields, h]

/-- Whatever nonce an announcement has, it takes no more room than another with a nonce. -/
theorem length_fields_le (a : Announcement) (n : UInt32) :
    (Layout.wireAll (Record.fields a)).length ≤
      (Layout.wireAll (Record.fields { a with nonce := some n })).length := by
  obtain ⟨name, nonce, timeout⟩ := a
  cases nonce with
  | none => simp [Record.fields, Layout.wireAll]
  | some m =>
    simp [Record.fields, Layout.wireAll, Layout.byteArray, Layout.wire, Piece.wire,
      Element.length_elementBytes]

/-- An announcement fits if it would with another nonce. -/
theorem fits_of_fits (h : Record.Fits { a with nonce := some n }) : Record.Fits a := by
  refine ⟨?_, trivial⟩
  have size := h.1
  rw [Record.estimate, Layout.estimate_eq, Record.layout, Layout.wire] at size ⊢
  exact Nat.le_trans (Element.length_elementBytes_mono _ (length_fields_le a n)
    (Record.length_of_fits h)) size

/-- The child that the nonce is written to, and the children when there is another nonce. -/
theorem children_eq_around (children : Record.children a = front ++ e :: behind)
    (others : ∀ d ∈ front, d.type ≠ TypeNumber.nonce) (type : e.type = TypeNumber.nonce) :
    ∃ m, a.nonce = some m ∧ e = .make TypeNumber.nonce (nonceBytes m) ∧
      Record.children { a with nonce := some n } =
        front ++ .make TypeNumber.nonce (nonceBytes n) :: behind := by
  have first := a.first?_nonce
  rw [children, Lookup.first?_append_cons others type] at first
  obtain ⟨name, nonce, timeout⟩ := a
  cases nonce with
  | none => cases first
  | some m =>
    injection first with first
    refine ⟨m, rfl, first, ?_⟩
    -- the nonce comes right after the name, so nothing but the name can come before it
    cases front with
    | nil =>
      injection children with head
      rw [← head] at type
      cases type
    | cons d front =>
      injection children with head tail
      cases front with
      | nil =>
        injection tail with _ rest
        rw [← head, ← rest]
        rfl
      | cons d' front =>
        injection tail with second
        have := others d' (by simp)
        rw [← second] at this
        exact absurd rfl this

/-- There is nothing to patch in the empty block, which stands in for an encoding that cannot be
read back. So an encoding with room for a nonce was read back. -/
theorem length_fields_lt (h : patchNonce? (Record.encodeFresh a) n = some p) :
    (Layout.wireAll (Record.fields a)).length < 2 ^ 64 := by
  rw [Record.encodeFresh, Layout.encode] at h
  split at h
  · rename_i b hb
    exact Layout.length_lt_of_encode_group hb
  · cases h

/-- Patching what encoding wrote gives what encoding the changed announcement would write. -/
theorem patchNonce_encodeFresh (h : patchNonce? (Record.encodeFresh a) n = some p) :
    p = Record.encodeFresh { a with nonce := some n } := by
  have size := length_fields_lt h
  have old : Record.encodeFresh a = _ :=
    Layout.encode_of_encode? (Layout.encode_group a.areFields size)
  have encoded := Record.wellFormed_encodeFresh a
  obtain ⟨front, e, behind, children, others, type, rfl⟩ :=
    patchNonce_children encoded.1 encoded.2 h
  rw [old] at children
  obtain ⟨m, nonce, rfl, children'⟩ := children_eq_around (n := n) children others type
  -- both nonces take four bytes, so neither header says anything different
  have child : { Element.make TypeNumber.nonce (nonceBytes m) with value := nonceBytes n } =
      Element.make TypeNumber.nonce (nonceBytes n) := by
    simp [Element.make]
  have sameSize : (Layout.wireAll (Record.fields a)).length =
      (Layout.wireAll (Record.fields { a with nonce := some n })).length := by
    have back : { ({ a with nonce := some n } : Announcement) with nonce := some m } = a := by
      rw [← nonce]
    have ge := length_fields_le { a with nonce := some n } m
    rw [back] at ge
    exact Nat.le_antisymm (length_fields_le a n) ge
  have size' : (Layout.wireAll (Record.fields { a with nonce := some n })).length < 2 ^ 64 := by
    rwa [← sameSize]
  have new : Record.encodeFresh { a with nonce := some n } = _ :=
    Layout.encode_of_encode? (Layout.encode_group (areFields _) size')
  have value := (Layout.wellFormed_elements (areFields { a with nonce := some n }) size').2
  rw [child, ← children', new, old, Block.withChildren, Record.children, value]
  simp only [Element.make, sameSize]

theorem wellFormed_of_patchNonce (parsed : b.isParsed = true)
    (h : patchNonce? b n = some p) : p.WellFormed ∧ p.isParsed = true := by
  obtain ⟨_, _, _, -, -, -, -, patched⟩ := patchNonce_eq_some h
  obtain ⟨wellFormed, split⟩ := Block.wellFormed_of_patch patched
  exact ⟨wellFormed, split parsed⟩

/-- A patched encoding stands for the announcement with the new nonce, wherever the encoding came
from. -/
theorem readsBack_of_patchNonce (hb : b.WellFormed) (parsed : b.isParsed = true)
    (h : Record.ReadsBack b a) (hp : patchNonce? b n = some p) :
    Record.ReadsBack p { a with nonce := some n } := by
  obtain ⟨c, hc, fields, -⟩ := h
  cases fields
  obtain ⟨type, q, hq, read, -⟩ := Record.ofBlock_eq_ok_iff.mp hc
  rw [Block.parse_of_isParsed parsed] at hq
  cases hq
  obtain ⟨front, e, behind, children, others, nonce, replaced⟩ :=
    patchNonce_children hb parsed hp
  rw [children] at read
  refine ⟨⟨{ c.fields with nonce := some n }, some p⟩, ?_, rfl, rfl⟩
  subst replaced
  exact Record.ofBlock_eq_ok_iff.mpr ⟨type, _, rfl, read_replace read others nonce, rfl⟩

end

/-- An announcement with a nonce is sound, whether or not the encoding had room for it. -/
theorem sound_withNonce {p : Provenance} {c : Cached Announcement} (h : c.Sound p) (n : UInt32) :
    (withNonce n c).Sound p := by
  refine ⟨h.valid, ?_⟩
  intro q hq
  obtain ⟨b, hb, hp⟩ := Option.bind_eq_some_iff.mp hq
  have old := h.encodes b hb
  obtain ⟨wellFormed, split⟩ := wellFormed_of_patchNonce old.parsed hp
  refine ⟨wellFormed, split, ?_, ?_⟩
  · intro fits
    exact readsBack_of_patchNonce old.wellFormed old.parsed (old.readsBack (fits_of_fits fits)) hp
  · -- without decoded material the old encoding was written, and so the new one looks written
    intro built fits
    rw [old.fresh built (fits_of_fits fits)] at hp
    exact patchNonce_encodeFresh hp

instance : LawfulRecord Announcement Edit where
  valid_constructed h := by
    rcases h with rfl | ⟨name, nonce, timeout, rfl⟩
    · exact Duration.wholeMillis_ofMillis 4000
    · cases timeout with
      | none => exact Duration.wholeMillis_ofMillis 4000
      | some timeout => exact Duration.wholeMillis_ofMillis timeout.wireMillis
  valid_read _ h := by
    obtain ⟨name, -, h⟩ := bind_eq_ok.mp h
    obtain ⟨nonce, -, h⟩ := bind_eq_ok.mp h
    obtain ⟨ms, -, h⟩ := bind_eq_ok.mp h
    cases h
    cases ms with
    | none => exact Duration.wholeMillis_ofMillis 4000
    | some ms => exact Duration.wholeMillis_ofMillis ms
  onWire_read _ := rfl
  areFields _ := areFields _
  read_children {_ a} valid size _ := ⟨a, read_children valid size, rfl, rfl⟩
  sound_apply {_ change c} _ h := by
    apply apply_cases
    · intro name
      exact Cached.sound_of_unencoded h.valid rfl
    · intro timeout
      exact Cached.sound_of_unencoded (Duration.wholeMillis_ofMillis timeout.wireMillis) rfl
    · exact sound_withNonce h
    · exact h

end Announcement

end NamedData
