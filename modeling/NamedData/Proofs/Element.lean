/-
Elements and the buffers that are made of them.

An element is well formed when its header says what it is: reading the header alone gives the
element's type number and the length of its value.  Decoding only makes well-formed elements, and
a well-formed element is read back from its own bytes whatever follows them.

* `wellFormed_of_decodeFirst` — what comes off the front of a buffer is well formed;
* `decodeFirst_wire_append` — a well-formed element comes off the front of its own bytes;
* `split_eq_ok_iff` — a buffer splits into a list of elements exactly when they are well formed
  and their bytes, one after another, are the buffer;
* `decode_eq_ok_iff` — a buffer is one element exactly when it is the bytes of a well-formed one.

`Element.make` is the element with the narrowest header, which is the one that encoding writes.
-/
import NamedData.Encoder

namespace NamedData

/-! ### Results that may be errors -/

theorem bind_eq_ok {ε α β : Type} {x : Except ε α} {f : α → Except ε β} {b : β} :
    (x >>= f) = .ok b ↔ ∃ a, x = .ok a ∧ f a = .ok b := by
  cases x with
  | error e => simp [bind, Except.bind]
  | ok a => simp [bind, Except.bind]

theorem bind_eq_error {ε α β : Type} {x : Except ε α} {f : α → Except ε β} {e : ε} :
    (x >>= f) = .error e ↔ x = .error e ∨ ∃ a, x = .ok a ∧ f a = .error e := by
  cases x with
  | error e => simp [bind, Except.bind]
  | ok a => simp [bind, Except.bind]

theorem map_eq_ok {ε α β : Type} {x : Except ε α} {f : α → β} {b : β} :
    x.map f = .ok b ↔ ∃ a, x = .ok a ∧ f a = b := by
  cases x with
  | error e => simp [Except.map]
  | ok a => simp [Except.map]

theorem map_eq_error {ε α β : Type} {x : Except ε α} {f : α → β} {e : ε} :
    x.map f = .error e ↔ x = .error e := by
  cases x with
  | error e => simp [Except.map]
  | ok a => simp [Except.map]

theorem eq_ok_of_toOption {ε α : Type} {x : Except ε α} {a : α} (h : x.toOption = some a) :
    x = .ok a := by
  cases x with
  | error e => cases h
  | ok b =>
    cases h
    rfl

@[simp] theorem ok_bind {ε α β : Type} (a : α) (f : α → Except ε β) :
    ((.ok a : Except ε α) >>= f) = f a := rfl

@[simp] theorem map_ok {ε α β : Type} (a : α) (f : α → β) :
    (.ok a : Except ε α).map f = .ok (f a) := rfl

/-! ### Variable-width numbers in front of other bytes -/

namespace VarNumber

/-- What is read depends only on the bytes that the number takes. -/
theorem read_take_append {bs : Bytes} {n : UInt64} {width : Nat} (h : read bs = .ok (n, width))
    (rest : Bytes) : read (bs.take width ++ rest) = .ok (n, width) := by
  cases bs with
  | nil => simp [read] at h
  | cons first tail =>
    simp only [read] at h
    split at h
    · rename_i zero
      cases h
      simp [read, zero]
    · rename_i nonzero
      split at h
      · cases h
      · rename_i enough
        cases h
        have short : ¬ (tail.take (tailWidth first) ++ rest).length < tailWidth first := by
          rw [List.length_append, List.length_take]
          omega
        have same : (tail.take (tailWidth first) ++ rest).take (tailWidth first) =
            tail.take (tailWidth first) := by
          apply List.take_left'
          rw [List.length_take]
          omega
        rw [Nat.add_comm 1, List.take_succ_cons, List.cons_append]
        simp only [read, nonzero, short, same, if_false]
        rw [Nat.add_comm]

/-- A greater number never takes fewer bytes. -/
theorem size_mono {m n : UInt64} (h : m ≤ n) : size m ≤ size n := by
  unfold size
  grind

end VarNumber

namespace Element

/-! ### Well-formed elements -/

/-- The header says the type number and the length of the value, and nothing else. -/
def WellFormed (e : Element) : Prop :=
  ∃ length : UInt64, readHeader e.header = .ok (e.type, length, e.header.length) ∧
    e.value.length = length.toNat

/-- An element is its header and then its value. -/
theorem size_eq (e : Element) : e.size = e.valueOffset + e.value.length := List.length_append

/-- A header is read from its own bytes, whatever follows them. -/
theorem readHeader_take_append {bs : Bytes} {type length : UInt64} {offset : Nat}
    (h : readHeader bs = .ok (type, length, offset)) (rest : Bytes) :
    readHeader (bs.take offset ++ rest) = .ok (type, length, offset) := by
  unfold readHeader at h ⊢
  obtain ⟨⟨t, n⟩, hn, h⟩ := bind_eq_ok.mp h
  obtain ⟨⟨l, m⟩, hm, h⟩ := bind_eq_ok.mp h
  cases h
  have bn := VarNumber.read_bounds hn
  have bm := VarNumber.read_bounds hm
  rw [List.length_drop] at bm
  -- the header is the first number followed by the second
  have parts : bs.take (n + m) = bs.take n ++ (bs.drop n).take m := List.take_add
  have rear : (bs.take n ++ ((bs.drop n).take m ++ rest)).drop n = (bs.drop n).take m ++ rest := by
    apply List.drop_left'
    rw [List.length_take]
    omega
  rw [parts, List.append_assoc, VarNumber.read_take_append hn, ok_bind]
  show (VarNumber.read ((bs.take n ++ ((bs.drop n).take m ++ rest)).drop n) >>= _) = _
  rw [rear, VarNumber.read_take_append hm]
  rfl

/-- What comes off the front of a buffer is well formed. -/
theorem wellFormed_of_decodeFirst {bs rest : Bytes} {e : Element}
    (h : decodeFirst bs = .ok (e, rest)) : e.WellFormed := by
  obtain ⟨length, offset, hh, enough, header, value, -⟩ := decodeFirst_eq_ok h
  have bounds := readHeader_bounds hh
  have size : e.header.length = offset := by
    rw [header, List.length_take]
    omega
  refine ⟨length, ?_, ?_⟩
  · have := readHeader_take_append hh []
    rw [size, header]
    rwa [List.append_nil] at this
  · rw [value, List.length_take]
    omega

/-- A well-formed element comes off the front of its own bytes. -/
theorem decodeFirst_wire_append {e : Element} (h : e.WellFormed) (rest : Bytes) :
    decodeFirst (e.wire ++ rest) = .ok (e, rest) := by
  obtain ⟨length, header, value⟩ := h
  have whole : readHeader (e.wire ++ rest) = .ok (e.type, length, e.header.length) := by
    have := readHeader_take_append header (e.value ++ rest)
    rwa [List.take_length, ← List.append_assoc] at this
  have body : (e.wire ++ rest).drop e.header.length = e.value ++ rest := by
    rw [wire, List.append_assoc, List.drop_left']
    rfl
  have front : (e.wire ++ rest).take e.header.length = e.header := by
    rw [wire, List.append_assoc, List.take_left']
    rfl
  have enough : ¬ (e.value ++ rest).length < length.toNat := by
    rw [List.length_append, value]
    omega
  unfold decodeFirst
  rw [whole, ok_bind]
  simp only [body, front]
  rw [if_neg enough, List.take_left' value, List.drop_left' value]
  rfl

/-- Two well-formed elements with the same bytes are the same. -/
theorem eq_of_wire_eq {d e : Element} (hd : d.WellFormed) (he : e.WellFormed)
    (h : d.wire = e.wire) : d = e := by
  have first := decodeFirst_wire_append hd []
  rw [h, decodeFirst_wire_append he []] at first
  cases first
  rfl

/-- A buffer is one element exactly when it is the bytes of a well-formed one. -/
theorem decode_eq_ok_iff {bs : Bytes} {e : Element} :
    decode bs = .ok e ↔ e.WellFormed ∧ e.wire = bs := by
  unfold decode
  rw [bind_eq_ok]
  constructor
  · rintro ⟨⟨d, rest⟩, hd, h⟩
    cases rest with
    | nil =>
      cases h
      refine ⟨wellFormed_of_decodeFirst hd, ?_⟩
      have := decodeFirst_wire hd
      rwa [List.append_nil] at this
    | cons b rest => cases h
  · rintro ⟨he, rfl⟩
    refine ⟨(e, []), ?_, rfl⟩
    have := decodeFirst_wire_append he []
    rwa [List.append_nil] at this

/-! ### Buffers of elements -/

/-- The bytes of elements, one after another. -/
def wireAll (es : List Element) : Bytes := es.flatMap wire

@[simp] theorem wireAll_nil : wireAll [] = [] := rfl

@[simp] theorem wireAll_cons (e : Element) (es : List Element) :
    wireAll (e :: es) = e.wire ++ wireAll es := List.flatMap_cons

@[simp] theorem wireAll_append (ds es : List Element) :
    wireAll (ds ++ es) = wireAll ds ++ wireAll es := List.flatMap_append

theorem split_nil : split [] = .ok [] := by
  rw [split]
  rfl

theorem split_of_decodeFirst {bs rest : Bytes} {e : Element}
    (h : decodeFirst bs = .ok (e, rest)) : split bs = (split rest).map (e :: ·) := by
  have nonempty : ¬ bs.isEmpty = true := by
    cases bs with
    | nil => exact absurd (decodeFirst_rest_lt h) (by simp)
    | cons b bs => simp
  rw [split, if_neg nonempty]
  split
  · rename_i e' he
    rw [h] at he
    cases he
  · rename_i d rest' hd
    rw [h] at hd
    cases hd
    rfl

theorem split_wireAll {es : List Element} (h : ∀ e ∈ es, e.WellFormed) :
    split (wireAll es) = .ok es := by
  induction es with
  | nil => exact split_nil
  | cons e es ih =>
    have he : e.WellFormed := h e List.mem_cons_self
    have hes : ∀ d ∈ es, d.WellFormed := fun d hd => h d (List.mem_cons_of_mem e hd)
    rw [wireAll_cons, split_of_decodeFirst (decodeFirst_wire_append he _), ih hes]
    rfl

/-- A buffer splits into a list of elements exactly when they are well formed and their bytes are
the buffer. -/
theorem split_eq_ok_iff {bs : Bytes} {es : List Element} :
    split bs = .ok es ↔ (∀ e ∈ es, e.WellFormed) ∧ wireAll es = bs := by
  constructor
  · intro h
    -- induction on how `split` goes through the buffer, one element at a time
    induction bs using split.induct generalizing es with
    | case1 bs empty =>
      cases bs with
      | nil =>
        rw [split_nil] at h
        cases h
        exact ⟨by simp, rfl⟩
      | cons b bs => cases empty
    | case2 bs nonempty e hd =>
      rw [split, if_neg nonempty] at h
      split at h <;> simp_all
    | case3 bs nonempty e rest hd ih =>
      rw [split_of_decodeFirst hd] at h
      obtain ⟨ds, hds, rfl⟩ := map_eq_ok.mp h
      obtain ⟨wellFormed, rfl⟩ := ih hds
      refine ⟨?_, decodeFirst_wire hd⟩
      intro d hmem
      rcases List.mem_cons.mp hmem with rfl | hmem
      · exact wellFormed_of_decodeFirst hd
      · exact wellFormed d hmem
  · rintro ⟨h, rfl⟩
    exact split_wireAll h

/-! ### Elements as encoding writes them -/

/-- The element with a type number, a value and the narrowest header. -/
def make (type : UInt64) (value : Bytes) : Element := ⟨type, headerBytes type value.length, value⟩

@[simp] theorem type_make (type : UInt64) (value : Bytes) : (make type value).type = type := rfl

@[simp] theorem value_make (type : UInt64) (value : Bytes) : (make type value).value = value := rfl

theorem readHeader_headerBytes (type : UInt64) (length : Nat) :
    readHeader (headerBytes type length) =
      .ok (type, UInt64.ofNat length, (headerBytes type length).length) := by
  have second := VarNumber.read_encode (UInt64.ofNat length) []
  rw [List.append_nil] at second
  unfold readHeader headerBytes
  rw [VarNumber.read_encode, ok_bind]
  simp only [← VarNumber.length_encode, List.drop_left, List.length_append] at second ⊢
  rw [second]
  rfl

/-- An element whose length fits its header is well formed. -/
theorem wellFormed_make {type : UInt64} {value : Bytes} (h : value.length < 2 ^ 64) :
    (make type value).WellFormed := by
  refine ⟨UInt64.ofNat value.length, readHeader_headerBytes type value.length, ?_⟩
  rw [UInt64.toNat_ofNat', Nat.mod_eq_of_lt h]
  rfl

/-- What reads back as one element has a length that its header could say. -/
theorem length_lt_of_decode {type : UInt64} {value : Bytes} {e : Element}
    (h : decode (elementBytes type value) = .ok e) : value.length < 2 ^ 64 := by
  obtain ⟨⟨length, header, size⟩, wire⟩ := decode_eq_ok_iff.mp h
  -- the same bytes have one header, read from the element or from what was written
  have read := readHeader_take_append header e.value
  rw [List.take_length] at read
  change readHeader e.wire = _ at read
  have written := readHeader_take_append (readHeader_headerBytes type value.length) value
  rw [List.take_length, ← elementBytes, ← wire, read] at written
  injection written with written
  injection written with _ written
  injection written with _ sameSize
  have whole : e.header.length + e.value.length =
      (headerBytes type value.length).length + value.length := by
    rw [← List.length_append, ← List.length_append]
    exact congrArg List.length wire
  have := length.toNat_lt
  omega

theorem length_elementBytes (type : UInt64) (value : Bytes) :
    (elementBytes type value).length =
      VarNumber.size type + VarNumber.size (UInt64.ofNat value.length) + value.length := by
  rw [elementBytes, headerBytes, List.length_append, List.length_append, VarNumber.length_encode,
    VarNumber.length_encode]

/-- An element with a longer value is longer. -/
theorem length_elementBytes_mono (type : UInt64) {v w : Bytes} (h : v.length ≤ w.length)
    (hw : w.length < 2 ^ 64) : (elementBytes type v).length ≤ (elementBytes type w).length := by
  have size : VarNumber.size (UInt64.ofNat v.length) ≤ VarNumber.size (UInt64.ofNat w.length) := by
    apply VarNumber.size_mono
    rw [UInt64.le_iff_toNat_le, UInt64.toNat_ofNat', UInt64.toNat_ofNat']
    omega
  rw [length_elementBytes, length_elementBytes]
  omega

end Element

end NamedData
