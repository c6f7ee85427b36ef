/-
Fields looked up among the elements that encoding writes.

Each optional field puts at most one child into the element of a record, so the first child of a
type is found by going through the fields one at a time (`first?_append`, `first?_integer?` and
their companions).  What is found then reads back as the field.

* `integer?_of_first?` — an option reads back from the children that it was written to;
* `Name.mapM_readComponent_eq_ok_iff`, `Exclude.readEntries_eq_ok_iff` — which children are read as
  components and as entries;
* `ofBlock_element` (for names and for filters) — a name and a filter read back from their
  elements;
* `Exclude.Built.spaced` — no filter that the library builds has two open ranges in a row, which
  is what reading its element back depends on.
-/
import NamedData.Record.Lookup
import NamedData.Exclude
import NamedData.Proofs.Layout

namespace NamedData

/-! ### The first child of a type -/

namespace Lookup

@[simp] theorem first?_nil (type : UInt64) : first? type [] = none := rfl

@[simp] theorem first?_cons (type : UInt64) (e : Element) (es : List Element) :
    first? type (e :: es) = if e.type = type then some e else first? type es := by
  by_cases h : e.type = type
  · simp [first?, h]
  · simp [first?, h]

@[simp] theorem first?_append (type : UInt64) (ds es : List Element) :
    first? type (ds ++ es) = (first? type ds).or (first? type es) := List.find?_append

@[simp] theorem first?_integer? (type field : UInt64) (n : Option UInt64) :
    first? type ((Layout.integer? field n).map Layout.element) =
      if field = type then n.map fun n => .make field (NonNegativeInteger.encode n) else none := by
  cases n with
  | none => simp [Layout.integer?]
  | some n =>
    by_cases h : field = type
    · simp [Layout.integer?, h]
    · simp [Layout.integer?, h]

@[simp] theorem first?_flag (type field : UInt64) (on : Bool) :
    first? type ((Layout.flag field on).map Layout.element) =
      if field = type ∧ on = true then some (.make field []) else none := by
  cases on with
  | false => simp [Layout.flag]
  | true =>
    by_cases h : field = type
    · simp [Layout.flag, h]
    · simp [Layout.flag, h]

@[simp] theorem first?_integerUnless (type field default n : UInt64) :
    first? type ((Layout.integerUnless field default n).map Layout.element) =
      if field = type ∧ n ≠ default then some (.make field (NonNegativeInteger.encode n))
      else none := by
  by_cases h : n = default
  · simp [Layout.integerUnless, h]
  · by_cases same : field = type
    · simp [Layout.integerUnless, h, same]
    · simp [Layout.integerUnless, h, same]

/-- What is found among elements is one of them. -/
theorem mem_of_first? {type : UInt64} {es : List Element} {e : Element}
    (h : first? type es = some e) : e ∈ es := List.mem_of_find?_eq_some h

theorem type_of_first? {type : UInt64} {es : List Element} {e : Element}
    (h : first? type es = some e) : e.type = type := by
  simpa using List.find?_some h

/-- The first child of a type, with children before it none of which is of the type. -/
theorem first?_append_cons {type : UInt64} {front behind : List Element} {e : Element}
    (others : ∀ d ∈ front, d.type ≠ type) (he : e.type = type) :
    first? type (front ++ e :: behind) = some e := by
  have none : first? type front = none := by
    rw [first?, List.find?_eq_none]
    intro d hd
    simp [others d hd]
  rw [first?_append, none, first?_cons, if_pos he]
  rfl

/-- Replacing a child by another of its type does not change what other types find. -/
theorem first?_replace {type : UInt64} {front behind : List Element} {d e : Element}
    (hd : d.type ≠ type) (he : e.type ≠ type) :
    first? type (front ++ d :: behind) = first? type (front ++ e :: behind) := by
  rw [first?_append, first?_append, first?_cons, first?_cons, if_neg hd, if_neg he]

/-! ### Reading what was written -/

theorem integer?_of_first? {kind : Kind} {type : UInt64} {es : List Element} {n : Option UInt64}
    (h : first? type es = n.map fun n => .make type (NonNegativeInteger.encode n)) :
    integer? kind type es = .ok n := by
  rw [integer?, h]
  cases n with
  | none => rfl
  | some n =>
    show (inKind kind (NonNegativeInteger.decode (NonNegativeInteger.encode n))).map some = _
    rw [NonNegativeInteger.decode_encode]
    rfl

/-- A number with a default reads back, written or not. -/
theorem integer?_getD_of_first? {kind : Kind} {type default n : UInt64} {es : List Element}
    (h : first? type es =
      if n ≠ default then some (.make type (NonNegativeInteger.encode n)) else none) :
    ∃ read, integer? kind type es = .ok read ∧ read.getD default = n := by
  by_cases hn : n = default
  · refine ⟨none, integer?_of_first? ?_, hn.symm⟩
    rw [h, if_neg (not_not_intro hn)]
    rfl
  · refine ⟨some n, integer?_of_first? ?_, rfl⟩
    rw [h, if_pos hn]
    rfl

theorem has_of_first? {type : UInt64} {es : List Element} {on : Bool}
    (h : first? type es = if on = true then some (.make type []) else none) :
    has type es = on := by
  rw [has, h]
  cases on <;> rfl

end Lookup

/-! ### Names -/

namespace Name

theorem readComponent_eq_ok_iff {e : Element} {c : Component} :
    readComponent e = .ok c ↔ e.type = TypeNumber.component ∧ c = ⟨e.value⟩ := by
  rw [readComponent]
  by_cases h : e.type = TypeNumber.component
  · rw [if_pos h, Except.ok.injEq, eq_comm]
    simp [h]
  · simp [h]

/-- Components are read one by one, and nothing else is. -/
theorem mapM_readComponent_eq_ok_iff {es : List Element} {cs : List Component} :
    es.mapM readComponent = .ok cs ↔
      (∀ e ∈ es, e.type = TypeNumber.component) ∧ cs = es.map fun e => ⟨e.value⟩ := by
  induction es generalizing cs with
  | nil => simp [pure, Except.pure, eq_comm]
  | cons e es ih =>
    rw [List.mapM_cons, bind_eq_ok, List.forall_mem_cons, List.map_cons]
    constructor
    · rintro ⟨c, first, h⟩
      obtain ⟨ds, later, h⟩ := bind_eq_ok.mp h
      cases h
      obtain ⟨type, rfl⟩ := readComponent_eq_ok_iff.mp first
      obtain ⟨types, rfl⟩ := ih.mp later
      exact ⟨⟨type, types⟩, rfl⟩
    · rintro ⟨⟨type, types⟩, rfl⟩
      exact ⟨_, readComponent_eq_ok_iff.mpr ⟨type, rfl⟩,
        bind_eq_ok.mpr ⟨_, ih.mpr ⟨types, rfl⟩, rfl⟩⟩

@[simp] theorem isField_layout (n : Name) : n.layout.IsField := trivial

@[simp] theorem type_layout (n : Name) : n.layout.element.type = TypeNumber.name := rfl

theorem areFields_components (cs : List Component) :
    Layout.AreFields (cs.map fun c => Layout.byteArray TypeNumber.component c.value) := by
  intro f hf
  obtain ⟨c, -, rfl⟩ := List.mem_map.mp hf
  trivial

/-- A name reads back from its element. -/
theorem ofBlock_element (n : Name) (h : n.layout.wire.length < 2 ^ 64) :
    ofBlock (Block.ofElement n.layout.element) = .ok n := by
  have parsed : (Block.ofElement n.layout.element).parse = _ :=
    Layout.parse_element_group (areFields_components n.components) h
  rw [ofBlock, if_pos (by rfl), parsed, ok_bind]
  simp only [Block.children, Option.getD_some]
  have read : ((n.components.map fun c => Layout.byteArray TypeNumber.component c.value).map
      Layout.element).mapM readComponent = .ok n.components := by
    rw [mapM_readComponent_eq_ok_iff, List.forall_mem_map, List.forall_mem_map, List.map_map,
      List.map_map]
    exact ⟨fun _ _ => rfl, (List.map_id _).symm⟩
  rw [read]
  rfl

end Name

/-- The name among the children, when its element comes first of its type. -/
theorem Lookup.name_of_first? {kind : Kind} {es : List Element} {n : Name}
    (h : first? TypeNumber.name es = some n.layout.element)
    (fits : n.layout.wire.length < 2 ^ 64) : Lookup.name kind es = .ok n := by
  rw [Lookup.name, h]
  show inKind kind (Name.ofBlock (Block.ofElement n.layout.element)) = _
  rw [n.ofBlock_element fits]
  rfl

/-- A name that is written before the other fields reads back. -/
theorem Lookup.name_map_element {kind : Kind} {n : Name} {fs : List Layout}
    (size : (Layout.wireAll (n.layout :: fs)).length < 2 ^ 64) :
    Lookup.name kind ((n.layout :: fs).map Layout.element) = .ok n := by
  have := Layout.length_wire_le (List.mem_cons_self : n.layout ∈ n.layout :: fs)
  apply name_of_first?
  · simp
  · omega

/-! ### Exclude filters -/

namespace Exclude

/-- The filters that the library builds: the empty one, those with one more entry, and those that
an element stands for. -/
inductive Built : Exclude → Prop where
  | empty : Built {}
  | excludeOne {x : Exclude} (h : Built x) (c : Component) : Built (x.excludeOne c)
  | excludeAny {x : Exclude} (h : Built x) : Built x.excludeAny
  | ofBlock {b : Block} {x : Exclude} (h : Exclude.ofBlock b = .ok x) : Built x

/-- No two open ranges follow one another in the entries, nor one the entry before them. -/
def Spaced : Option ExcludeEntry → List ExcludeEntry → Prop
  | _, [] => True
  | previous, e :: rest => ¬ (e = .any ∧ previous = some .any) ∧ Spaced (some e) rest

theorem spaced_append_singleton {previous : Option ExcludeEntry} {es : List ExcludeEntry}
    {e : ExcludeEntry} (h : Spaced previous es)
    (last : ¬ (e = .any ∧ (es.getLast?.or previous) = some .any)) :
    Spaced previous (es ++ [e]) := by
  induction es generalizing previous with
  | nil => exact ⟨last, trivial⟩
  | cons d es ih =>
    refine ⟨h.1, ih h.2 ?_⟩
    rintro ⟨he, hd⟩
    refine last ⟨he, ?_⟩
    rw [List.getLast?_cons]
    cases hes : es.getLast? with
    | none => simpa [hes] using hd
    | some f => simpa [hes] using hd

/-- The entry that an element stands for. -/
def entryOf (e : Element) : ExcludeEntry :=
  if e.type = TypeNumber.any then .any else .component ⟨e.value⟩

theorem entryOf_eq_any_iff {e : Element} : entryOf e = .any ↔ e.type = TypeNumber.any := by
  rw [entryOf]
  split <;> simp [*]

theorem entryOf_element (e : ExcludeEntry) : entryOf (entryLayout e).element = e := by
  cases e <;> rfl

/-- One element is read as an entry, and the others as what follows it. -/
theorem readEntries_cons_eq_ok_iff {previous : Option ExcludeEntry} {e : Element}
    {es : List Element} {entries : List ExcludeEntry} :
    readEntries previous (e :: es) = .ok entries ↔
      (e.type = TypeNumber.component ∨ e.type = TypeNumber.any) ∧
        ¬ (entryOf e = .any ∧ previous = some .any) ∧
        ∃ rest, readEntries (some (entryOf e)) es = .ok rest ∧ entryOf e :: rest = entries := by
  by_cases component : e.type = TypeNumber.component
  · have entry : entryOf e = .component ⟨e.value⟩ := by
      rw [entryOf, component, if_neg (by decide)]
    have apart : ¬ (ExcludeEntry.component ⟨e.value⟩ = .any ∧ previous = some .any) := by simp
    rw [readEntries, if_pos component, map_eq_ok, and_iff_right (.inl component), entry,
      and_iff_right apart]
  · by_cases any : e.type = TypeNumber.any
    · have entry : entryOf e = .any := if_pos any
      rw [readEntries, if_neg component, if_pos any, and_iff_right (.inr any), entry]
      by_cases open_ : previous = some .any
      · simp [open_]
      · rw [if_neg open_, map_eq_ok, and_iff_right (fun both => open_ both.2)]
    · rw [readEntries, if_neg component, if_neg any]
      simp [component, any]

/-- Reading entries keeps each of them in its place. -/
theorem readEntries_eq_ok_iff {previous : Option ExcludeEntry} {es : List Element}
    {entries : List ExcludeEntry} :
    readEntries previous es = .ok entries ↔
      (∀ e ∈ es, e.type = TypeNumber.component ∨ e.type = TypeNumber.any) ∧
        Spaced previous (es.map entryOf) ∧ entries = es.map entryOf := by
  induction es generalizing previous entries with
  | nil => simp [readEntries, Spaced, eq_comm]
  | cons e es ih =>
    rw [readEntries_cons_eq_ok_iff, List.forall_mem_cons, List.map_cons]
    constructor
    · rintro ⟨type, apart, rest, later, rfl⟩
      obtain ⟨types, spaced, rfl⟩ := ih.mp later
      exact ⟨⟨type, types⟩, ⟨apart, spaced⟩, rfl⟩
    · rintro ⟨⟨type, types⟩, ⟨apart, spaced⟩, rfl⟩
      exact ⟨type, apart, _, ih.mpr ⟨types, spaced, rfl⟩, rfl⟩

theorem spaced_of_ofBlock {b : Block} {x : Exclude} (h : ofBlock b = .ok x) :
    Spaced none x.entries := by
  rw [ofBlock] at h
  split at h
  · obtain ⟨p, -, h⟩ := bind_eq_ok.mp h
    split at h
    · cases h
    · obtain ⟨entries, hentries, h⟩ := bind_eq_ok.mp h
      cases h
      obtain ⟨-, spaced, rfl⟩ := readEntries_eq_ok_iff.mp hentries
      exact spaced
  · cases h

/-- No filter that the library builds has two open ranges in a row. -/
theorem Built.spaced {x : Exclude} (h : x.Built) : Spaced none x.entries := by
  induction h with
  | empty => trivial
  | excludeOne _ c ih =>
    refine spaced_append_singleton ih ?_
    rintro ⟨he, -⟩
    cases he
  | @excludeAny x _ ih =>
    rw [Exclude.excludeAny]
    split
    · exact ih
    · rename_i open_
      refine spaced_append_singleton ih ?_
      rintro ⟨-, hlast⟩
      rw [Option.or_none] at hlast
      exact open_ hlast
  | ofBlock h => exact spaced_of_ofBlock h

@[simp] theorem isField_layout (x : Exclude) : x.layout.IsField := trivial

@[simp] theorem type_layout (x : Exclude) : x.layout.element.type = TypeNumber.exclude := rfl

theorem areFields_entries (entries : List ExcludeEntry) :
    Layout.AreFields (entries.map entryLayout) := by
  intro f hf
  obtain ⟨e, -, rfl⟩ := List.mem_map.mp hf
  cases e <;> trivial

/-- A filter with entries, no two open ranges in a row, reads back from its element. -/
theorem ofBlock_element {x : Exclude} (spaced : Spaced none x.entries)
    (nonempty : x.isEmpty = false) (h : x.layout.wire.length < 2 ^ 64) :
    ofBlock (Block.ofElement x.layout.element) = .ok x := by
  have parsed : (Block.ofElement x.layout.element).parse = _ :=
    Layout.parse_element_group (areFields_entries x.entries) h
  -- reading refuses an element without entries, but no such element is written
  have some : ((x.entries.map entryLayout).map Layout.element).isEmpty = false := by
    rw [List.isEmpty_map, List.isEmpty_map]
    exact nonempty
  rw [ofBlock, if_pos (by rfl), parsed, ok_bind]
  simp only [Block.children, Option.getD_some, some]
  have same : ((x.entries.map entryLayout).map Layout.element).map entryOf = x.entries := by
    rw [List.map_map, List.map_map]
    exact (List.map_congr_left fun e _ => entryOf_element e).trans (List.map_id _)
  have read : readEntries none ((x.entries.map entryLayout).map Layout.element) =
      .ok x.entries := by
    rw [readEntries_eq_ok_iff, same, List.forall_mem_map, List.forall_mem_map]
    refine ⟨?_, spaced, rfl⟩
    intro e _
    cases e with
    | component c => exact .inl rfl
    | any => exact .inr rfl
  rw [if_neg (by simp), read]
  rfl

end Exclude

end NamedData
