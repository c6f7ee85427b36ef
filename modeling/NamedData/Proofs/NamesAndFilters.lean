/-
Which blocks are names and filters, and that each is the encoding of only one.

A name is an element of components.  A filter is an element of components and open ranges, one at
least and no two ranges in a row.  Reading such a block goes through its children once and keeps the
value of each component in its place; what a range carries is dropped.  The builders keep ranges
apart as the reader demands, so every filter with an entry reads back (`Exclude.Built.spaced`).

* `Name.ofBlock_eq_ok_iff`, `Exclude.ofBlock_eq_ok_iff` — the blocks that are read, and as what;
* `Exclude.Built.isChain` — no two ranges are neighbours in a filter that the library builds;
* `names_and_filters_exact` — both, together with reading back what was encoded.
-/
import Mathlib.Data.List.Chain
import NamedData.Proofs.Equality
import NamedData.Proofs.Representation

namespace NamedData

/-! ### Names -/

namespace Name

variable {b : Block} {n : Name}

/-- The blocks that are names are the elements of components. -/
theorem ofBlock_eq_ok_iff (hb : b.WellFormed) :
    ofBlock b = .ok n ↔ b.type = TypeNumber.name ∧ ∃ es, Element.split b.value = .ok es ∧
      (∀ e ∈ es, e.type = TypeNumber.component) ∧ n = ⟨es.map fun e => ⟨e.value⟩⟩ := by
  rw [ofBlock]
  split
  · rename_i type
    rw [bind_eq_ok, and_iff_right type]
    constructor
    · rintro ⟨p, parsed, h⟩
      obtain ⟨es, split, rfl⟩ := (Block.parse_eq_ok_iff hb).mp parsed
      obtain ⟨cs, read, h⟩ := bind_eq_ok.mp h
      cases h
      obtain ⟨types, rfl⟩ := mapM_readComponent_eq_ok_iff.mp read
      exact ⟨es, split, types, rfl⟩
    · rintro ⟨es, split, types, rfl⟩
      exact ⟨_, (Block.parse_eq_ok_iff hb).mpr ⟨es, split, rfl⟩,
        bind_eq_ok.mpr ⟨_, mapM_readComponent_eq_ok_iff.mpr ⟨types, rfl⟩, rfl⟩⟩
  · rename_i type
    simp [type]

end Name

/-! ### Filters -/

namespace Exclude

variable {b : Block} {x : Exclude} {entries : List ExcludeEntry}

theorem spaced_some_iff {d : ExcludeEntry} :
    Spaced (some d) entries ↔ (d :: entries).IsChain fun d e => ¬ (d = .any ∧ e = .any) := by
  induction entries generalizing d with
  | nil => simp [Spaced]
  | cons e entries ih =>
    rw [Spaced, ih, List.isChain_cons_cons, Option.some_inj, and_comm (a := e = .any)]

/-- Ranges are apart if no two of them are neighbours. -/
theorem spaced_iff_isChain :
    Spaced none entries ↔ entries.IsChain fun d e => ¬ (d = .any ∧ e = .any) := by
  cases entries with
  | nil => simp [Spaced]
  | cons e entries =>
    rw [Spaced, spaced_some_iff]
    simp

theorem Built.isChain (built : x.Built) :
    x.entries.IsChain fun d e => ¬ (d = .any ∧ e = .any) :=
  spaced_iff_isChain.mp built.spaced

/-- The blocks that are filters are the elements of components and open ranges, with at least one
of either and no range next to another. -/
theorem ofBlock_eq_ok_iff (hb : b.WellFormed) :
    ofBlock b = .ok x ↔ b.type = TypeNumber.exclude ∧ ∃ es, Element.split b.value = .ok es ∧
      es ≠ [] ∧ (∀ e ∈ es, e.type = TypeNumber.component ∨ e.type = TypeNumber.any) ∧
      es.IsChain (fun d e => ¬ (d.type = TypeNumber.any ∧ e.type = TypeNumber.any)) ∧
      x = ⟨es.map entryOf⟩ := by
  have chain (es : List Element) : Spaced none (es.map entryOf) ↔
      es.IsChain fun d e => ¬ (d.type = TypeNumber.any ∧ e.type = TypeNumber.any) := by
    rw [spaced_iff_isChain, List.isChain_map]
    simp only [entryOf_eq_any_iff]
  rw [ofBlock]
  split
  · rename_i type
    rw [bind_eq_ok, and_iff_right type]
    constructor
    · rintro ⟨p, parsed, h⟩
      obtain ⟨es, split, rfl⟩ := (Block.parse_eq_ok_iff hb).mp parsed
      split at h
      · cases h
      · rename_i some
        obtain ⟨entries, read, h⟩ := bind_eq_ok.mp h
        cases h
        obtain ⟨types, spaced, rfl⟩ := readEntries_eq_ok_iff.mp read
        exact ⟨es, split, fun none => some (by rw [none]; rfl), types, (chain es).mp spaced, rfl⟩
    · rintro ⟨es, split, some, types, apart, rfl⟩
      refine ⟨_, (Block.parse_eq_ok_iff hb).mpr ⟨es, split, rfl⟩, ?_⟩
      rw [if_neg (by simpa [Block.children] using some)]
      exact bind_eq_ok.mpr
        ⟨_, readEntries_eq_ok_iff.mpr ⟨types, (chain es).mpr apart, rfl⟩, rfl⟩
  · rename_i type
    simp [type]

end Exclude

/-! ### Encodings -/

namespace Layout

/-- A group of fields that any memory holds is encoded, and what reads the same from a block and
from the element inside it reads the encoding as the element of the group. -/
theorem read_encode_group {α : Type} {read : Block → Except TlvError α}
    (unsplit : ∀ b : Block, b.WellFormed → read (Block.ofElement b.element) = read b)
    {type : UInt64} {fs : List Layout} (fields : AreFields fs)
    (fits : (group type fs).wire.length < 2 ^ 64) :
    (group type fs).encode? = .ok (group type fs).encode ∧
      read (group type fs).encode = read (Block.ofElement (group type fs).element) := by
  rw [wire] at fits
  have encoded : (group type fs).encode? = _ :=
    encode_group fields (length_lt_of_elementBytes fits)
  have same := encode_of_encode? encoded
  refine ⟨by rw [same, encoded], ?_⟩
  rw [← unsplit _ (wellFormed_encode _).1, same]
  rfl

theorem length_wire_lt {l : Layout} (fits : l.estimate ≤ maxPosition) :
    l.wire.length < 2 ^ 64 := by
  have limit : maxPosition < 2 ^ 64 := by decide
  rw [estimate_eq] at fits
  omega

/-- Encodings are different if they are read as different values. -/
theorem wire_encode_ne {α : Type} {read : Block → Except TlvError α} {l m : Layout} {a c : α}
    (ha : read l.encode = .ok a) (hc : read m.encode = .ok c) (different : a ≠ c) :
    l.encode.wire ≠ m.encode.wire := by
  intro same
  obtain ⟨hl, splitL⟩ := wellFormed_encode l
  obtain ⟨hm, splitM⟩ := wellFormed_encode m
  rw [Block.eq_of_wire_eq hl hm splitL splitM same, hc] at ha
  exact different (Except.ok.inj ha).symm

end Layout

/-- A name that any memory holds is encoded, and reads back from that. -/
theorem Name.ofBlock_encode {n : Name} (fits : n.layout.estimate ≤ maxPosition) :
    n.layout.encode? = .ok n.layout.encode ∧ ofBlock n.layout.encode = .ok n := by
  have short := Layout.length_wire_lt fits
  have unsplit (b : Block) (hb : b.WellFormed) :
      ofBlock (Block.ofElement b.element) = ofBlock b := by
    rw [ofBlock, ofBlock, Block.parse_ofElement hb]
    rfl
  obtain ⟨encoded, read⟩ :=
    Layout.read_encode_group unsplit (areFields_components n.components) short
  exact ⟨encoded, read.trans (n.ofBlock_element short)⟩

/-- So is a filter with an entry. -/
theorem Exclude.Built.ofBlock_encode {x : Exclude} (built : x.Built) (nonempty : x.entries ≠ [])
    (fits : x.layout.estimate ≤ maxPosition) :
    x.layout.encode? = .ok x.layout.encode ∧ Exclude.ofBlock x.layout.encode = .ok x := by
  have short := Layout.length_wire_lt fits
  have unsplit (b : Block) (hb : b.WellFormed) :
      Exclude.ofBlock (Block.ofElement b.element) = Exclude.ofBlock b := by
    rw [Exclude.ofBlock, Exclude.ofBlock, Block.parse_ofElement hb]
    rfl
  obtain ⟨encoded, read⟩ :=
    Layout.read_encode_group unsplit (areFields_entries x.entries) short
  have some : x.isEmpty = false := by
    rw [isEmpty, List.isEmpty_eq_false_iff]
    exact nonempty
  exact ⟨encoded, read.trans (ofBlock_element built.spaced some short)⟩

/-! ### Everything together -/

/-- A block is a name exactly if it has the type number of one and its value is made of components,
and a filter exactly if it has that of one and its value is made of components and ranges, of at
least one and of no two ranges in a row.  Every name, and every filter with an entry that the
library builds, is encoded as a block that reads back as the same, and no other has its
encoding. -/
theorem names_and_filters_exact :
    (∀ b : Block, b.Obtained →
      (∀ n, Name.ofBlock b = .ok n ↔ b.type = 7 ∧ ∃ es, Element.split b.value = .ok es ∧
        (∀ e ∈ es, e.type = 8) ∧ n.components = es.map fun e => ⟨e.value⟩) ∧
      (∀ x, Exclude.ofBlock b = .ok x ↔ b.type = 16 ∧ ∃ es, Element.split b.value = .ok es ∧
        es ≠ [] ∧ (∀ e ∈ es, e.type = 8 ∨ e.type = 19) ∧
        es.IsChain (fun d e => ¬ (d.type = 19 ∧ e.type = 19)) ∧
        x.entries = es.map fun e => if e.type = 19 then .any else .component ⟨e.value⟩)) ∧
    (∀ n : Name, n.layout.estimate ≤ maxPosition →
      n.layout.encode? = .ok n.layout.encode ∧ Name.ofBlock n.layout.encode = .ok n ∧
      ∀ m : Name, m.layout.estimate ≤ maxPosition → n ≠ m →
        n.layout.encode.wire ≠ m.layout.encode.wire) ∧
    (∀ x : Exclude, x.Built →
      x.entries.IsChain (fun d e => ¬ (d = .any ∧ e = .any)) ∧
      (x.entries ≠ [] → x.layout.estimate ≤ maxPosition →
        x.layout.encode? = .ok x.layout.encode ∧ Exclude.ofBlock x.layout.encode = .ok x ∧
        ∀ y : Exclude, y.Built → y.entries ≠ [] → y.layout.estimate ≤ maxPosition → x ≠ y →
          x.layout.encode.wire ≠ y.layout.encode.wire)) := by
  refine ⟨?_, ?_, ?_⟩
  · intro b obtained
    refine ⟨fun n => ?_, fun x => ?_⟩
    · obtain ⟨cs⟩ := n
      rw [Name.ofBlock_eq_ok_iff obtained.wellFormed]
      simp only [Name.mk.injEq]
    · obtain ⟨entries⟩ := x
      rw [Exclude.ofBlock_eq_ok_iff obtained.wellFormed]
      simp only [Exclude.mk.injEq]
      rfl
  · intro n fits
    obtain ⟨encoded, read⟩ := Name.ofBlock_encode fits
    refine ⟨encoded, read, ?_⟩
    intro m fits' different
    exact Layout.wire_encode_ne read (Name.ofBlock_encode fits').2 different
  · intro x built
    refine ⟨built.isChain, ?_⟩
    intro nonempty fits
    obtain ⟨encoded, read⟩ := built.ofBlock_encode nonempty fits
    refine ⟨encoded, read, ?_⟩
    intro y built' nonempty' fits' different
    exact Layout.wire_encode_ne read (built'.ofBlock_encode nonempty' fits').2 different

/-- A filter as it was received, with a wide header, an empty component and a range that carries a
byte.  It is encoded without the byte, and differently once it is left open. -/
theorem names_and_filters_exact_received :
    let es : List Element := [⟨8, [8, 0], []⟩, ⟨19, [19, 1], [7]⟩, ⟨8, [8, 2], [97, 98]⟩]
    let b := Block.ofElement ⟨16, [16, 253, 0, 9], Element.wireAll es⟩
    let x : Exclude := ⟨[.component ⟨[]⟩, .any, .component ⟨[97, 98]⟩]⟩
    let n : Name := ⟨[⟨[]⟩, ⟨[98]⟩]⟩
    b.Obtained ∧ Exclude.ofBlock b = .ok x ∧ (∀ n, Name.ofBlock b ≠ .ok n) ∧ x.Built ∧
      Exclude.ofBlock x.layout.encode = .ok x ∧
      x.layout.encode.wire ≠ x.excludeAny.excludeAny.layout.encode.wire ∧
      Name.ofBlock n.layout.encode = .ok n ∧
      n.layout.encode.wire ≠ (Name.layout {}).encode.wire := by
  intro es b x n
  have wellFormed : ∀ e ∈ es, e.WellFormed := by
    simp only [es, List.forall_mem_cons]
    exact ⟨⟨0, rfl, rfl⟩, ⟨1, rfl, rfl⟩, ⟨2, rfl, rfl⟩, List.forall_mem_nil _⟩
  have split : Element.split b.value = .ok es :=
    Element.split_eq_ok_iff.mpr ⟨wellFormed, rfl⟩
  have obtained : b.Obtained :=
    .decode (Block.decode_eq_ok_iff.mpr ⟨⟨9, rfl, rfl⟩, rfl, rfl⟩)
  obtain ⟨accepted, names, filters⟩ := names_and_filters_exact
  obtain ⟨areNames, areFilters⟩ := accepted b obtained
  have read : Exclude.ofBlock b = .ok x :=
    (areFilters x).mpr ⟨rfl, es, split, by decide, by decide, by decide, rfl⟩
  have built : x.Built := .ofBlock read
  have refused (n : Name) : Name.ofBlock b ≠ .ok n :=
    fun h => absurd ((areNames n).mp h).1 (by decide)
  obtain ⟨-, encodings⟩ := filters x built
  obtain ⟨-, inverse, apart⟩ := encodings (by decide) (by decide)
  obtain ⟨-, inverse', apart'⟩ := names n (by decide)
  exact ⟨obtained, read, refused, built, inverse,
    apart _ built.excludeAny.excludeAny (by decide) (by decide) (by decide), inverse',
    apart' {} (by decide) (by decide)⟩

end NamedData
