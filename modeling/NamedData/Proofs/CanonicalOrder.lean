/-
The canonical order of names is the byte order of their encodings.

Components are compared by length and then byte by byte, names component by component.  Encodings
are compared as byte strings are, at the first byte that differs.  The two agree since a length is
written in front of every value, and what is written for a greater length comes later in the byte
order: its first byte tells the width, and the wider forms have the greater first bytes.

* `VarNumber.compare_encode_append` — numbers in front of any bytes compare as the numbers do, and
  as what is behind them if they are equal;
* `Component.compare_wire_append` — so do components in front of any bytes;
* `Name.compare_eq_compare_value` — hence names compare as the values of their elements;
* `compare_eq_compare_encodings` — and both orders are total, with nothing equal but the same.
-/
import NamedData.Proofs.Lookup

namespace NamedData

/-! ### Byte strings -/

theorem compare_append {a b : Bytes} (h : a.length = b.length) (x y : Bytes) :
    Ord.compare (a ++ x) (b ++ y) = (Ord.compare a b).then (Ord.compare x y) := by
  induction a generalizing b with
  | nil =>
    rw [List.eq_nil_of_length_eq_zero h.symm]
    rfl
  | cons c a ih =>
    cases b with
    | nil => cases h
    | cons d b =>
      rw [List.cons_append, List.cons_append, List.compare_cons_cons, List.compare_cons_cons,
        ih (Nat.succ.inj h), Ordering.then_assoc]

theorem compare_byte (a b : UInt8) : Ord.compare a b = Ord.compare a.toNat b.toNat := by
  rcases Nat.lt_trichotomy a.toNat b.toNat with h | h | h
  · rw [Nat.compare_eq_lt.mpr h]
    exact Std.compare_eq_lt.mpr (UInt8.lt_iff_toNat_lt.mpr h)
  · rw [UInt8.toNat_inj.mp h, Nat.compare_eq_eq.mpr rfl]
    exact Std.ReflCmp.compare_self
  · rw [Nat.compare_eq_gt.mpr h]
    exact Std.compare_eq_gt.mpr (UInt8.lt_iff_toNat_lt.mpr h)

/-- Numbers compare as their quotients do, and as their remainders if these are equal. -/
theorem compare_div_mod (m n : Nat) :
    (Ord.compare (m / 256) (n / 256)).then (Ord.compare (m % 256) (n % 256)) =
      Ord.compare m n := by
  rcases Nat.lt_trichotomy (m / 256) (n / 256) with h | h | h
  · have less : m < n := by omega
    rw [Nat.compare_eq_lt.mpr h, Nat.compare_eq_lt.mpr less]
    rfl
  · rw [Nat.compare_eq_eq.mpr h, Ordering.eq_then, Nat.compare_eq_ite_lt, Nat.compare_eq_ite_lt]
    congr 1
    · exact propext (by omega)
    · congr 1
      exact propext (by omega)
  · have greater : n < m := by omega
    rw [Nat.compare_eq_gt.mpr h, Nat.compare_eq_gt.mpr greater]
    rfl

/-- Numbers of one width compare as their bytes, the most significant first. -/
theorem compare_bigEndian {width m n : Nat} (hm : m < 256 ^ width) (hn : n < 256 ^ width) :
    Ord.compare (bigEndian width m) (bigEndian width n) = Ord.compare m n := by
  induction width generalizing m n with
  | zero =>
    rw [Nat.pow_zero, Nat.lt_one_iff] at hm hn
    rw [hm, hn]
    rfl
  | succ width ih =>
    rw [Nat.pow_succ'] at hm hn
    have front := ih (Nat.div_lt_of_lt_mul hm) (Nat.div_lt_of_lt_mul hn)
    have digits : (bigEndian width (m / 256)).length = (bigEndian width (n / 256)).length := by
      rw [length_bigEndian, length_bigEndian]
    rw [bigEndian, bigEndian, compare_append digits, front, List.compare_cons_cons,
      List.compare_nil_nil, Ordering.then_eq, compare_byte, UInt8.toNat_ofNat', UInt8.toNat_ofNat']
    exact compare_div_mod m n

/-! ### Variable-width numbers -/

namespace VarNumber

/-- The narrowest form of a number is a first byte and the digits behind it.  A number below 253 is
its own first byte, and that of a greater one tells in which range the number is. -/
theorem encode_cases (n : UInt64) :
    ∃ first, encode n = first :: bigEndian (tailWidth first) n.toNat ∧
      ((n.toNat < 253 ∧ first.toNat = n.toNat ∧ tailWidth first = 0) ∨
        (253 ≤ n.toNat ∧ n.toNat < 256 ^ 2 ∧ first.toNat = 253 ∧ tailWidth first = 2) ∨
        (256 ^ 2 ≤ n.toNat ∧ n.toNat < 256 ^ 4 ∧ first.toNat = 254 ∧ tailWidth first = 4) ∨
        (256 ^ 4 ≤ n.toNat ∧ n.toNat < 256 ^ 8 ∧ first.toNat = 255 ∧ tailWidth first = 8)) := by
  have h1 : (253 : UInt64).toNat = 253 := rfl
  have h2 : (0xFFFF : UInt64).toNat = 0xFFFF := rfl
  have h4 : (0xFFFFFFFF : UInt64).toNat = 0xFFFFFFFF := rfl
  have h8 := n.toNat_lt
  unfold encode
  simp only [UInt64.lt_iff_toNat_lt, UInt64.le_iff_toNat_le, h1, h2, h4]
  split
  · rename_i h
    have same : n.toUInt8.toNat = n.toNat := by
      rw [UInt64.toNat_toUInt8]
      omega
    have small : n.toUInt8 < 253 := by
      rw [UInt8.lt_iff_toNat_lt, same]
      exact h
    have width : tailWidth n.toUInt8 = 0 := if_pos small
    exact ⟨n.toUInt8, by rw [width]; rfl, .inl ⟨h, same, width⟩⟩
  · split
    · exact ⟨253, rfl, .inr (.inl ⟨by omega, by omega, rfl, rfl⟩)⟩
    · split
      · exact ⟨254, rfl, .inr (.inr (.inl ⟨by omega, by omega, rfl, rfl⟩))⟩
      · exact ⟨255, rfl, .inr (.inr (.inr ⟨by omega, by omega, rfl, rfl⟩))⟩

/-- Numbers in front of any bytes compare as the numbers do, and as what is behind them if they are
equal. -/
theorem compare_encode_append (m n : UInt64) (x y : Bytes) :
    Ord.compare (encode m ++ x) (encode n ++ y) =
      (Ord.compare m.toNat n.toNat).then (Ord.compare x y) := by
  obtain ⟨a, encoded, hm⟩ := encode_cases m
  obtain ⟨b, encoded', hn⟩ := encode_cases n
  rw [encoded, encoded', List.cons_append, List.cons_append, List.compare_cons_cons, compare_byte]
  rcases Nat.lt_trichotomy a.toNat b.toNat with h | h | h
  · have less : m.toNat < n.toNat := by omega
    rw [Nat.compare_eq_lt.mpr h, Nat.compare_eq_lt.mpr less]
    rfl
  · -- with one first byte both have one width, and are that byte if nothing follows it
    obtain rfl := UInt8.toNat_inj.mp h
    rw [Nat.compare_eq_eq.mpr rfl, Ordering.eq_then]
    have digits : (bigEndian (tailWidth a) m.toNat).length =
        (bigEndian (tailWidth a) n.toNat).length := by
      rw [length_bigEndian, length_bigEndian]
    rw [compare_append digits]
    congr 1
    rcases hm with ⟨-, byte, width⟩ | ⟨-, fits, -, width⟩ | ⟨-, fits, -, width⟩ |
      ⟨-, fits, -, width⟩
    · have same : m.toNat = n.toNat := by omega
      rw [same, width, Nat.compare_eq_eq.mpr rfl]
      rfl
    all_goals
      have fits' : n.toNat < 256 ^ tailWidth a := by
        rw [width]
        omega
      rw [← width] at fits
      exact compare_bigEndian fits fits'
  · have greater : n.toNat < m.toNat := by omega
    rw [Nat.compare_eq_gt.mpr h, Nat.compare_eq_gt.mpr greater]
    rfl

end VarNumber

/-! ### Components -/

/-- Elements of one type in front of any bytes compare by the lengths of their values, then by the
values, and then as what is behind them. -/
theorem compare_elementBytes_append (type : UInt64) {v w : Bytes} (hv : v.length < 2 ^ 64)
    (hw : w.length < 2 ^ 64) (x y : Bytes) :
    Ord.compare (elementBytes type v ++ x) (elementBytes type w ++ y) =
      ((Ord.compare v.length w.length).then (Ord.compare v w)).then (Ord.compare x y) := by
  have length {l : Nat} (h : l < 2 ^ 64) : (UInt64.ofNat l).toNat = l := by
    rw [UInt64.toNat_ofNat', Nat.mod_eq_of_lt h]
  simp only [elementBytes, headerBytes, List.append_assoc]
  rw [VarNumber.compare_encode_append, Nat.compare_eq_eq.mpr rfl, Ordering.eq_then,
    VarNumber.compare_encode_append, length hv, length hw]
  by_cases same : v.length = w.length
  · rw [compare_append same, Nat.compare_eq_eq.mpr same, Ordering.eq_then, Ordering.eq_then]
  · -- lengths that differ decide, whatever the values are
    rcases Nat.lt_or_gt_of_ne same with h | h
    · rw [Nat.compare_eq_lt.mpr h]
      rfl
    · rw [Nat.compare_eq_gt.mpr h]
      rfl

namespace Component

/-- The component's element as it is written. -/
def wire (c : Component) : Bytes :=
  (Layout.byteArray TypeNumber.component c.value).buffer.contents

theorem wire_eq (c : Component) : c.wire = elementBytes TypeNumber.component c.value := by
  rw [wire, Layout.contents_buffer]
  rfl

theorem wire_ne_nil (c : Component) : c.wire ≠ [] := by
  obtain ⟨first, encoded, -⟩ := VarNumber.encode_cases TypeNumber.component
  rw [wire_eq, elementBytes, headerBytes, encoded]
  exact List.cons_ne_nil _ _

/-- A component whose length a header can say. -/
def Fits (c : Component) : Prop := c.value.length < 2 ^ 64

instance (c : Component) : Decidable c.Fits := inferInstanceAs (Decidable (_ < _))

theorem compare_wire_append {c d : Component} (hc : c.Fits) (hd : d.Fits) (x y : Bytes) :
    Ord.compare (c.wire ++ x) (d.wire ++ y) = (Ord.compare c d).then (Ord.compare x y) := by
  rw [wire_eq, wire_eq]
  exact compare_elementBytes_append TypeNumber.component hc hd x y

theorem compare_wire {c d : Component} (hc : c.Fits) (hd : d.Fits) :
    Ord.compare c.wire d.wire = Ord.compare c d := by
  have := compare_wire_append hc hd [] []
  rwa [List.append_nil, List.append_nil, List.compare_nil_nil, Ordering.then_eq] at this

/-- By length first, then by value. -/
instance : Std.TransOrd Component :=
  inferInstanceAs (Std.TransCmp
    (compareLex (compareOn fun c : Component => c.value.length) (compareOn Component.value)))

instance : Std.LawfulEqOrd Component where
  eq_of_compare {c d} h := by
    have values : Ord.compare c.value d.value = .eq := (Ordering.then_eq_eq.mp h).2
    exact congrArg Component.mk (Std.LawfulEqOrd.eq_of_compare values)

end Component

/-! ### Names -/

namespace Name

/-- The value of the name's element: the elements of its components. -/
def value (n : Name) : Bytes := n.components.flatMap Component.wire

theorem compare_flatMap_wire {cs ds : List Component} (hc : ∀ c ∈ cs, c.Fits)
    (hd : ∀ d ∈ ds, d.Fits) :
    Ord.compare (cs.flatMap Component.wire) (ds.flatMap Component.wire) = Ord.compare cs ds := by
  induction cs generalizing ds with
  | nil =>
    cases ds with
    | nil => rfl
    | cons d ds =>
      obtain ⟨b, rest, wire⟩ := List.exists_cons_of_ne_nil d.wire_ne_nil
      rw [List.flatMap_cons, wire]
      rfl
  | cons c cs ih =>
    cases ds with
    | nil =>
      obtain ⟨b, rest, wire⟩ := List.exists_cons_of_ne_nil c.wire_ne_nil
      rw [List.flatMap_cons, wire]
      rfl
    | cons d ds =>
      rw [List.flatMap_cons, List.flatMap_cons, List.compare_cons_cons,
        Component.compare_wire_append (hc c List.mem_cons_self) (hd d List.mem_cons_self),
        ih (fun c' h => hc c' (List.mem_cons_of_mem c h))
          (fun d' h => hd d' (List.mem_cons_of_mem d h))]

/-- Names compare as the values of their elements. -/
theorem compare_value {m n : Name} (hm : ∀ c ∈ m.components, c.Fits)
    (hn : ∀ c ∈ n.components, c.Fits) : Ord.compare m.value n.value = Ord.compare m n :=
  compare_flatMap_wire hm hn

theorem wireAll_layout (n : Name) :
    Layout.wireAll (n.components.map fun c => .byteArray TypeNumber.component c.value) =
      n.value := by
  rw [value]
  induction n.components with
  | nil => rw [List.map_nil, Layout.wireAll]; rfl
  | cons c cs ih =>
    rw [List.map_cons, Layout.wireAll, ih, List.flatMap_cons, Component.wire_eq]
    rfl

theorem contents_buffer_layout (n : Name) :
    n.layout.buffer.contents = elementBytes TypeNumber.name n.value := by
  rw [Layout.contents_buffer, layout, Layout.wire, wireAll_layout]

/-- What is encoded is the value, and it is encoded whenever its length fits a header. -/
theorem value_encode (n : Name) (h : n.value.length < 2 ^ 64) :
    ∃ b, n.layout.encode? = .ok b ∧ b.value = n.value := by
  rw [← wireAll_layout] at h ⊢
  exact ⟨_, Layout.encode_group (areFields_components n.components) h, rfl⟩

/-- Components are no longer than the name. -/
theorem fits_of_length_value {n : Name} (h : n.value.length < 2 ^ 64) :
    ∀ c ∈ n.components, c.Fits := by
  intro c hc
  obtain ⟨front, behind, parts⟩ := List.append_of_mem hc
  rw [value, parts, List.flatMap_append, List.flatMap_cons, Component.wire_eq, List.length_append,
    List.length_append] at h
  have shorter : (elementBytes TypeNumber.component c.value).length < 2 ^ 64 := by omega
  exact Layout.length_lt_of_elementBytes shorter

instance : Std.TransOrd Name :=
  inferInstanceAs (Std.TransCmp (compareOn Name.components))

instance : Std.LawfulEqOrd Name where
  eq_of_compare h := congrArg Name.mk (Std.LawfulEqOrd.eq_of_compare h)

end Name

/-- Components whose lengths fit 64 bits compare as the elements that are written for them, and
names with such components compare as the values that are written for them, behind their headers.
Names whose values fit a length are encoded, and so they compare as the values of their blocks.
Both orders are total, and nothing is equal in them but the same. -/
theorem compare_eq_compare_encodings :
    (∀ c d : Component, c.Fits → d.Fits → Ord.compare c d = Ord.compare c.wire d.wire) ∧
    (∀ m n : Name, (∀ c ∈ m.components, c.Fits) → (∀ c ∈ n.components, c.Fits) →
      Ord.compare m n = Ord.compare m.value n.value) ∧
    (∀ n : Name, n.layout.buffer.contents = elementBytes TypeNumber.name n.value) ∧
    (∀ m n : Name, m.value.length < 2 ^ 64 → n.value.length < 2 ^ 64 →
      ∃ a b, m.layout.encode? = .ok a ∧ n.layout.encode? = .ok b ∧
        Ord.compare m n = Ord.compare a.value b.value) ∧
    (Std.TransOrd Component ∧ ∀ c d : Component, Ord.compare c d = .eq ↔ c = d) ∧
    (Std.TransOrd Name ∧ ∀ m n : Name, Ord.compare m n = .eq ↔ m = n) := by
  refine ⟨fun c d hc hd => (Component.compare_wire hc hd).symm,
    fun m n hm hn => (Name.compare_value hm hn).symm, Name.contents_buffer_layout, ?_,
    ⟨inferInstance, fun c d => Std.LawfulEqCmp.compare_eq_iff_eq⟩,
    ⟨inferInstance, fun m n => Std.LawfulEqCmp.compare_eq_iff_eq⟩⟩
  intro m n hm hn
  obtain ⟨a, encoded, value⟩ := m.value_encode hm
  obtain ⟨b, encoded', value'⟩ := n.value_encode hn
  refine ⟨a, b, encoded, encoded', ?_⟩
  rw [value, value']
  exact (Name.compare_value (Name.fits_of_length_value hm) (Name.fits_of_length_value hn)).symm

/-- A component of 252 bytes comes before one of 253 zeros, although its length takes one byte and
that of the other takes three; and a name is decided by its first component, however many follow. -/
theorem compare_eq_compare_encodings_widths :
    let c : Component := ⟨List.replicate 252 255⟩
    let d : Component := ⟨List.replicate 253 0⟩
    let m : Name := ⟨[c, d, d]⟩
    let n : Name := ⟨[d]⟩
    Ord.compare c.wire d.wire = .lt ∧ Ord.compare m.value n.value = .lt ∧
      ∃ a b, m.layout.encode? = .ok a ∧ n.layout.encode? = .ok b ∧
        Ord.compare a.value b.value = .lt := by
  intro c d m n
  obtain ⟨components, names, -, encoded, -⟩ := compare_eq_compare_encodings
  have hc : c.Fits := by decide +kernel
  have hd : d.Fits := by decide +kernel
  have hm : ∀ e ∈ m.components, e.Fits := by decide +kernel
  have hn : ∀ e ∈ n.components, e.Fits := by decide +kernel
  have order : Ord.compare c d = .lt := by decide +kernel
  have order' : Ord.compare m n = .lt := by decide +kernel
  refine ⟨(components c d hc hd).symm.trans order, (names m n hm hn).symm.trans order', ?_⟩
  obtain ⟨a, b, ha, hb, same⟩ := encoded m n (by decide +kernel) (by decide +kernel)
  exact ⟨a, b, ha, hb, same.symm.trans order'⟩

end NamedData
