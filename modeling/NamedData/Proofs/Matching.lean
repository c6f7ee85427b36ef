/-
A name is a prefix of another exactly when its encoding is.

The value of a name's element is the elements of its components, one after another.  A byte string
that begins with a component's element has that component and nothing else come off its front, so
two such strings can be compared component by component: what is left of the one begins what is
left of the other (`Component.wire_append_prefix_iff`).  In particular no prefix of the bytes ends
inside a component.  Packets that match the names which extend their own can therefore be matched
in their encodings, against the value of the first child that is a name.

* `Name.value_prefix_iff` — names and their values;
* `Kind.matches_eq`, `Kind.find?_name` — what a packet matches, and where its name is found;
* `isPrefixOf_iff_prefix_encodings` — both, with the laws of the prefix order.
-/
import NamedData.Proofs.Coherence
import NamedData.Proofs.CanonicalOrder
import NamedData.Proofs.Filtering

namespace NamedData

/-! ### Names -/

/-- Bytes that begin with the element of a component begin others that do so only if the component
is the same and what is behind it begins what is behind the other. -/
theorem Component.wire_append_prefix_iff {c d : Component} (hc : c.Fits) (hd : d.Fits)
    {x y : Bytes} : c.wire ++ x <+: d.wire ++ y ↔ c = d ∧ x <+: y := by
  constructor
  · rintro ⟨rest, h⟩
    -- the same bytes have the same element come off their front
    have first : Element.decodeFirst (c.wire ++ x ++ rest) =
        .ok (.make TypeNumber.component c.value, x ++ rest) := by
      rw [wire_eq, List.append_assoc]
      exact Element.decodeFirst_wire_append (Element.wellFormed_make hc) _
    have second : Element.decodeFirst (d.wire ++ y) =
        .ok (.make TypeNumber.component d.value, y) := by
      rw [wire_eq]
      exact Element.decodeFirst_wire_append (Element.wellFormed_make hd) _
    rw [h, second] at first
    injection first with first
    injection first with element behind
    have value : d.value = c.value := congrArg Element.value element
    exact ⟨congrArg Component.mk value.symm, rest, behind.symm⟩
  · rintro ⟨rfl, h⟩
    exact (List.prefix_append_right_inj c.wire).mpr h

namespace Name

variable {a b n : Name} {cs ds : List Component}

theorem flatMap_wire_prefix_iff (hc : ∀ c ∈ cs, c.Fits) (hd : ∀ d ∈ ds, d.Fits) :
    cs.flatMap Component.wire <+: ds.flatMap Component.wire ↔ cs <+: ds := by
  induction cs generalizing ds with
  | nil => simp
  | cons c cs ih =>
    cases ds with
    | nil => simp [c.wire_ne_nil]
    | cons d ds =>
      rw [List.flatMap_cons, List.flatMap_cons, List.cons_prefix_cons,
        Component.wire_append_prefix_iff (hc c List.mem_cons_self) (hd d List.mem_cons_self),
        ih (fun c' h => hc c' (List.mem_cons_of_mem c h))
          (fun d' h => hd d' (List.mem_cons_of_mem d h))]

/-- Names whose values fit a length begin one another exactly if their values do. -/
theorem value_prefix_iff (ha : a.value.length < 2 ^ 64) (hb : b.value.length < 2 ^ 64) :
    a.value <+: b.value ↔ a.isPrefixOf b = true := by
  rw [isPrefixOf_iff]
  exact flatMap_wire_prefix_iff (fits_of_length_value ha) (fits_of_length_value hb)

theorem encode_eq_ok (h : n.value.length < 2 ^ 64) :
    n.layout.encode? = .ok n.layout.encode ∧ n.layout.encode.value = n.value := by
  obtain ⟨b, encoded, value⟩ := n.value_encode h
  have same := Layout.encode_of_encode? encoded
  exact ⟨by rw [encoded, same], by rw [same, value]⟩

/-! ### The prefix order -/

theorem isPrefixOf_self (a : Name) : a.isPrefixOf a = true :=
  isPrefixOf_iff.mpr (List.prefix_refl _)

theorem isPrefixOf_antisymm (h : a.isPrefixOf b = true) (h' : b.isPrefixOf a = true) : a = b := by
  obtain ⟨cs⟩ := a
  obtain ⟨ds⟩ := b
  have shorter := isPrefixOf_iff.mp h
  have longer := isPrefixOf_iff.mp h'
  exact congrArg Name.mk (shorter.eq_of_length_le longer.length_le)

theorem isPrefixOf_trans (h : a.isPrefixOf b = true) (h' : b.isPrefixOf n = true) :
    a.isPrefixOf n = true :=
  isPrefixOf_iff.mpr ((isPrefixOf_iff.mp h).trans (isPrefixOf_iff.mp h'))

/-- A name comes no later than its extensions in the canonical order. -/
theorem compare_of_isPrefixOf (h : a.isPrefixOf b = true) : (Ord.compare a b).isLE = true := by
  obtain ⟨cs⟩ := a
  obtain ⟨ds⟩ := b
  obtain ⟨rest, rfl⟩ := isPrefixOf_iff.mp h
  show (Ord.compare cs (cs ++ rest)).isLE = true
  clear h
  induction cs with
  | nil => cases rest <;> rfl
  | cons c cs ih =>
    have same : Ord.compare c c = .eq := Std.ReflCmp.compare_self
    rw [List.cons_append, List.compare_cons_cons, same, Ordering.eq_then]
    exact ih

end Name

/-! ### Packets -/

namespace Kind

/-- The kinds of packets that match a name by their own name alone. -/
def matchesExtensions : Kind → Bool
  | .announcement => true
  | .hint => true
  | .vicinity => true
  | .vicinityData => true
  | _ => false

variable {k : Kind} {x : k.recordType.Fields} {n : Name}

/-- They match the names that extend their own. -/
theorem matches_eq (h : k.matchesExtensions = true) (x : k.recordType.Fields) :
    ∃ own, Form.name? x = some own ∧ ∀ n, Form.matches? x n = some (own.isPrefixOf n) := by
  cases k with
  | announcement => exact ⟨x.name, rfl, fun _ => rfl⟩
  | hint => exact ⟨x.name, rfl, fun _ => rfl⟩
  | vicinity => exact ⟨x.name, rfl, fun _ => rfl⟩
  | vicinityData => exact ⟨x.name, rfl, fun _ => rfl⟩
  | _ => cases h

/-- The name is written before the other fields. -/
theorem fields_of_name (own : Form.name? x = some n) : ∃ fs, Record.fields x = n.layout :: fs := by
  cases k with
  | announcement => cases own; exact ⟨_, rfl⟩
  | hint => cases own; exact ⟨_, rfl⟩
  | legacyHint => cases own; exact ⟨_, rfl⟩
  | vicinity => cases own; exact ⟨_, rfl⟩
  | vicinityData => cases own; exact ⟨_, rfl⟩
  | _ => cases own

/-- So the first child that is a name holds what the name itself is encoded as, and the name is no
longer than the packet. -/
theorem find?_name {h : Held k.recordType.Fields} {p : Provenance} (reachable : h.Reachable p)
    (fits : Record.Fits h.fields) (own : Form.name? h.fields = some n) :
    n.value.length < 2 ^ 64 ∧ ∃ e,
      (Record.encodeFresh h.fields).find? TypeNumber.name = some e ∧ e.value = n.value := by
  obtain ⟨fs, fields⟩ := fields_of_name own
  have size := Record.length_of_fits fits
  have encoded : Record.encodeFresh h.fields = _ :=
    Layout.encode_of_encode? (Record.encodeFresh?_eq reachable.sound.valid fits)
  have first : Record.children h.fields = n.layout.element :: fs.map Layout.element := by
    rw [Record.children, fields, List.map_cons]
  have value : n.layout.element.value = n.value := n.wireAll_layout
  constructor
  · rw [fields] at size
    have short := Layout.length_wire_le (List.mem_cons_self : n.layout ∈ n.layout :: fs)
    have fits' : n.layout.wire.length < 2 ^ 64 := by omega
    rw [Name.layout, Layout.wire, n.wireAll_layout] at fits'
    exact Layout.length_lt_of_elementBytes fits'
  · refine ⟨n.layout.element, ?_, value⟩
    rw [encoded, first]
    rfl

end Kind

/-! ### Everything together -/

/-- A name whose value fits a length is encoded, and it is a prefix of another exactly if its value
is a prefix of the bytes of the other's.  A packet other than a hint of the older schema matches a
name exactly if its own is a prefix of it, which can be told from the value of the first name in
its encoding.  Names are partially ordered by this, and a name comes no later than its
extensions. -/
theorem isPrefixOf_iff_prefix_encodings :
    (∀ a b : Name, a.value.length < 2 ^ 64 → b.value.length < 2 ^ 64 →
      a.layout.encode? = .ok a.layout.encode ∧ b.layout.encode? = .ok b.layout.encode ∧
        (a.isPrefixOf b = true ↔ a.layout.encode.value <+: b.layout.encode.value)) ∧
    (∀ k : Kind, k.matchesExtensions = true → ∀ x : k.recordType.Fields,
      ∃ own, Form.name? x = some own ∧ ∀ n, Form.matches? x n = some (own.isPrefixOf n)) ∧
    (∀ (k : Kind) (p : Provenance) (h : Held k.recordType.Fields), k.matchesExtensions = true →
      h.Reachable p → Record.Fits h.fields → ∀ n : Name, n.value.length < 2 ^ 64 →
        ∃ e, (Record.encodeFresh h.fields).find? TypeNumber.name = some e ∧
          Form.matches? h.fields n = some (decide (e.value <+: n.layout.encode.value))) ∧
    (∀ a : Name, a.isPrefixOf a = true) ∧
    (∀ a b : Name, a.isPrefixOf b = true → b.isPrefixOf a = true → a = b) ∧
    (∀ a b n : Name, a.isPrefixOf b = true → b.isPrefixOf n = true → a.isPrefixOf n = true) ∧
    (∀ a b : Name, a.isPrefixOf b = true → (Ord.compare a b).isLE = true) := by
  refine ⟨?_, fun k h x => Kind.matches_eq h x, ?_, Name.isPrefixOf_self,
    fun a b => Name.isPrefixOf_antisymm, fun a b n => Name.isPrefixOf_trans,
    fun a b => Name.compare_of_isPrefixOf⟩
  · intro a b ha hb
    obtain ⟨encoded, value⟩ := Name.encode_eq_ok ha
    obtain ⟨encoded', value'⟩ := Name.encode_eq_ok hb
    rw [value, value']
    exact ⟨encoded, encoded', (Name.value_prefix_iff ha hb).symm⟩
  · intro k p h named reachable fits n hn
    obtain ⟨own, hown, verdict⟩ := Kind.matches_eq named h.fields
    obtain ⟨short, e, found, value⟩ := Kind.find?_name reachable fits hown
    refine ⟨e, found, ?_⟩
    rw [verdict, value, (Name.encode_eq_ok hn).2]
    have same : own.isPrefixOf n = decide (own.value <+: n.value) := by
      rw [Bool.eq_iff_iff, decide_eq_true_iff]
      exact (Name.value_prefix_iff short hn).symm
    rw [same]

/-- A name begins the one with an empty component behind it, but not one whose component goes on,
and a hint with a scope of its own is matched in its encoding. -/
theorem isPrefixOf_iff_prefix_encodings_hint :
    let a : Name := ⟨[⟨[97]⟩]⟩
    let b : Name := ⟨[⟨[97]⟩, ⟨[]⟩]⟩
    let n : Name := ⟨[⟨[97, 98]⟩]⟩
    let h : Held Hint := Held.ofFields { name := a, scope := 3 }
    a.layout.encode.value <+: b.layout.encode.value ∧
      ¬ a.layout.encode.value <+: n.layout.encode.value ∧
      ∃ e, (Record.encodeFresh h.fields).find? TypeNumber.name = some e ∧
        Form.matches? h.fields b = some (decide (e.value <+: b.layout.encode.value)) := by
  intro a b n h
  obtain ⟨names, -, packets, -⟩ := isPrefixOf_iff_prefix_encodings
  have reachable : h.Reachable .built := ⟨h, [], .constructed ⟨a, 3, rfl⟩, by simp, rfl⟩
  have fits : Record.Fits h.fields := by
    exact ⟨by decide, by decide, trivial⟩
  refine ⟨(names a b (by decide) (by decide)).2.2.mp (by decide), ?_,
    packets .hint .built h rfl reachable fits b (by decide)⟩
  intro begins
  exact absurd ((names a n (by decide) (by decide)).2.2.mpr begins) (by decide)

end NamedData
