/-
What a fresh encoding consists of.

Each kind of record declares its fields in a fixed order.  A required field always has a child; an
optional one has a default and is left out while it has this value.  Encoding writes the fields
from the last to the first, records inside included, and what comes out has the children of the
fields in the declared order and nothing besides: at most one for each field, in the narrowest
form.

* `Declared` — a field as its kind declares it, and `Kind.declared` — the fields of each kind;
* `Declared.find?_children` — the child of a field is found by the field's type;
* `encodeFresh_children` — the children of the encodings of all records that are made without
  decoded material.
-/
import NamedData.Proofs.Coherence
import NamedData.Proofs.Grammar

namespace NamedData

/-! ### Declared fields -/

/-- What the value of a child is. -/
inductive ChildValue where
  /-- An integer. -/
  | integer (n : UInt64)
  /-- A byte string. -/
  | bytes (bs : Bytes)
  /-- Further elements, one after another. -/
  | elements (es : List Element)
  /-- Nothing at all. -/
  | nothing
deriving DecidableEq, Repr

namespace ChildValue

/-- The bytes of the value. -/
def wire : ChildValue → Bytes
  | .integer n => NonNegativeInteger.encode n
  | .bytes bs => bs
  | .elements es => Element.wireAll es
  | .nothing => []

/-- The components of a name. -/
def name (n : Name) : ChildValue :=
  .elements (n.components.map fun c => .make TypeNumber.component c.value)

/-- The element of an entry of a filter. -/
def entry : ExcludeEntry → Element
  | .component c => .make TypeNumber.component c.value
  | .any => .make TypeNumber.any []

/-- The entries of a filter. -/
def exclude (x : Exclude) : ChildValue := .elements (x.entries.map entry)

/-- The value of an option that is set. -/
def given {β : Type} (value : β → ChildValue) : Option β → ChildValue
  | some b => value b
  | none => .nothing

end ChildValue

/-- A field as its kind declares it. -/
structure Declared (α : Type) where
  /-- The type of its child. -/
  type : UInt64
  /-- The value of its child, if it has one. -/
  value? : α → Option ChildValue

namespace Declared

variable {α : Type}

/-- The child of the field, if it has one, with the narrowest header. -/
def child? (f : Declared α) (x : α) : Option Element :=
  (f.value? x).map fun value => .make f.type value.wire

/-- The children of fields, in order. -/
def children (fields : List (Declared α)) (x : α) : List Element :=
  fields.filterMap fun f => f.child? x

/-- A field that always has a child. -/
def required (type : UInt64) (value : α → ChildValue) : Declared α :=
  ⟨type, fun x => some (value x)⟩

/-- A field that has a child if it differs from its default. -/
def optional {β : Type} [DecidableEq β] (type : UInt64) (get : α → β) (default : β)
    (value : β → ChildValue) : Declared α :=
  ⟨type, fun x => if get x = default then none else some (value (get x))⟩

/-- A required number. -/
def integer (type : UInt64) (get : α → UInt64) : Declared α :=
  .required type fun x => .integer (get x)

/-- A required text. -/
def string (type : UInt64) (get : α → String) : Declared α :=
  .required type fun x => .bytes (utf8 (get x))

/-- A number that may be unset. -/
def integer? (type : UInt64) (get : α → Option UInt64) : Declared α :=
  .optional type get none (.given .integer)

/-- A number with a default. -/
def integerUnless (type default : UInt64) (get : α → UInt64) : Declared α :=
  .optional type get default .integer

/-- A flag. -/
def flag (type : UInt64) (get : α → Bool) : Declared α :=
  .optional type get false fun _ => .nothing

end Declared

/-! ### The fields of each kind -/

section

open Declared

/-- The fields of replication selectors. -/
def ReplicationSelectors.declared : List (Declared ReplicationSelectors) :=
  [integer? TypeNumber.nodeId (·.nodeId), flag TypeNumber.interested (·.interested),
    integer? TypeNumber.availability (·.availability)]

/-- The fields of replication selectors of the older schema. -/
def LegacyReplicationSelectors.declared : List (Declared LegacyReplicationSelectors) :=
  [optional TypeNumber.exclude (·.exclude) {} .exclude,
    flag TypeNumber.mustBeFresh (·.mustBeFresh)]

/-- The fields of strategy selectors. -/
def StrategySelectors.declared : List (Declared StrategySelectors) :=
  [integer? TypeNumber.scope (·.scope), integer? TypeNumber.nodeId (·.nodeId),
    flag TypeNumber.interested (·.interested), integer? TypeNumber.availability (·.availability)]

/-- The fields of the mobility strategy's selectors. -/
def PdrmStrategySelectors.declared : List (Declared PdrmStrategySelectors) :=
  [integer? TypeNumber.pdrmScope (·.scope), integer? TypeNumber.pdrmNodeId (·.nodeId),
    integer? TypeNumber.pdrmHomeNetwork (·.homeNetwork),
    integer? TypeNumber.pdrmPreferredLocation (·.preferredLocation),
    integer? TypeNumber.pdrmTimeSpent (·.timeSpentAtPreferredLocation),
    integer? TypeNumber.pdrmCurrentPosition (·.currentPosition),
    integer? TypeNumber.pdrmAvailability (·.availability),
    flag TypeNumber.pdrmInterest (·.interest)]

/-- The fields of an announcement. -/
def Announcement.declared : List (Declared Announcement) :=
  [required TypeNumber.name fun a => .name a.name,
    optional TypeNumber.nonce (·.nonce) none (.given fun n => .bytes (nonceBytes n)),
    optional TypeNumber.timeout (·.timeout) (Duration.ofMillis 4000)
      fun timeout => .integer timeout.wireMillis]

/-- The fields of a hint. -/
def Hint.declared : List (Declared Hint) :=
  [required TypeNumber.name fun h => .name h.name, integerUnless TypeNumber.hintScope 2 (·.scope),
    optional Kind.replicationSelectors.type (·.selectors.fields) {}
      fun s => .elements (children ReplicationSelectors.declared s)]

/-- The fields of a hint of the older schema. -/
def LegacyHint.declared : List (Declared LegacyHint) :=
  [required TypeNumber.name fun h => .name h.name, integer TypeNumber.size (·.size),
    integerUnless TypeNumber.hintScope 2 (·.scope),
    optional Kind.legacyReplicationSelectors.type (·.selectors.fields) {}
      fun s => .elements (children LegacyReplicationSelectors.declared s)]

/-- The fields of a vicinity request. -/
def Vicinity.declared : List (Declared Vicinity) :=
  [required TypeNumber.name fun v => .name v.name, integerUnless TypeNumber.scope 2 (·.scope)]

/-- The fields of an answer to a vicinity request. -/
def VicinityData.declared : List (Declared VicinityData) :=
  [required TypeNumber.name fun v => .name v.name, integer? TypeNumber.nodeId (·.nodeId)]

/-- The twelve counters of a record that has them. -/
def TrafficCounters.declared {α : Type} (get : α → TrafficCounters) : List (Declared α) :=
  [integer TypeNumber.inInterests fun s => (get s).incoming.interests,
    integer TypeNumber.inDatas fun s => (get s).incoming.datas,
    integer TypeNumber.inAnnouncements fun s => (get s).incoming.announcements,
    integer TypeNumber.inHints fun s => (get s).incoming.hints,
    integer TypeNumber.inVicinities fun s => (get s).incoming.vicinities,
    integer TypeNumber.inVicinityDatas fun s => (get s).incoming.vicinityDatas,
    integer TypeNumber.outInterests fun s => (get s).outgoing.interests,
    integer TypeNumber.outDatas fun s => (get s).outgoing.datas,
    integer TypeNumber.outAnnouncements fun s => (get s).outgoing.announcements,
    integer TypeNumber.outHints fun s => (get s).outgoing.hints,
    integer TypeNumber.outVicinities fun s => (get s).outgoing.vicinities,
    integer TypeNumber.outVicinityDatas fun s => (get s).outgoing.vicinityDatas]

/-- The fields of a face's status. -/
def FaceStatus.declared : List (Declared FaceStatus) :=
  [integer TypeNumber.faceId (·.faceId), string TypeNumber.uri (·.remoteUri),
    string TypeNumber.localUri (·.localUri),
    optional TypeNumber.expirationPeriod (·.expirationPeriod) none
      (.given fun period => .integer period.wireMillis),
    integer TypeNumber.faceScope (·.scope.toWord),
    integer TypeNumber.facePersistency (·.persistency.toWord),
    integer TypeNumber.linkType (·.linkType.toWord)] ++
  TrafficCounters.declared (·.counters) ++
  [integer TypeNumber.inBytes (·.inBytes), integer TypeNumber.outBytes (·.outBytes)]

/-- The fields of a forwarder's status. -/
def ForwarderStatus.declared : List (Declared ForwarderStatus) :=
  [string TypeNumber.version (·.version),
    integer TypeNumber.startTimestamp (·.startTimestamp.wireMillis),
    integer TypeNumber.currentTimestamp (·.currentTimestamp.wireMillis),
    integer TypeNumber.nameTreeEntries (·.nameTreeEntries),
    integer TypeNumber.fibEntries (·.fibEntries), integer TypeNumber.pitEntries (·.pitEntries),
    integer TypeNumber.measurementsEntries (·.measurementsEntries),
    integer TypeNumber.csEntries (·.csEntries)] ++
  TrafficCounters.declared (·.counters)

/-- The fields of a kind, in the declared order. -/
def Kind.declared : (k : Kind) → List (Declared k.recordType.Fields)
  | .announcement => Announcement.declared
  | .hint => Hint.declared
  | .legacyHint => LegacyHint.declared
  | .vicinity => Vicinity.declared
  | .vicinityData => VicinityData.declared
  | .replicationSelectors => ReplicationSelectors.declared
  | .legacyReplicationSelectors => LegacyReplicationSelectors.declared
  | .strategySelectors => StrategySelectors.declared
  | .pdrmStrategySelectors => PdrmStrategySelectors.declared
  | .faceStatus => FaceStatus.declared
  | .forwarderStatus => ForwarderStatus.declared

end

theorem Kind.nodup_declared (k : Kind) : (k.declared.map Declared.type).Nodup := by
  cases k <;> decide

/-! ### Children of declared fields -/

namespace Declared

variable {α : Type} {f : Declared α} {fs : List (Declared α)} {x : α} {e : Element}

theorem type_of_child? (h : f.child? x = some e) : e.type = f.type := by
  obtain ⟨value, -, rfl⟩ := Option.map_eq_some_iff.mp h
  rfl

@[simp] theorem children_nil (x : α) : children [] x = [] := rfl

@[simp] theorem children_cons (f : Declared α) (fs : List (Declared α)) (x : α) :
    children (f :: fs) x = (f.child? x).toList ++ children fs x := by
  rw [children, List.filterMap_cons]
  cases f.child? x <;> rfl

@[simp] theorem children_append (fs gs : List (Declared α)) (x : α) :
    children (fs ++ gs) x = children fs x ++ children gs x := List.filterMap_append

theorem map_type_children_sublist (fs : List (Declared α)) (x : α) :
    ((children fs x).map Element.type).Sublist (fs.map Declared.type) := by
  induction fs with
  | nil => exact .slnil
  | cons f fs ih =>
    rw [children_cons, List.map_append, List.map_cons]
    cases child : f.child? x with
    | none => exact ih.cons _
    | some e =>
      rw [Option.toList_some, List.map_cons, List.map_nil, type_of_child? child]
      exact ih.cons_cons _

/-- Where no two fields have the same type, a field's child is what is found by its type. -/
theorem find?_children (distinct : (fs.map Declared.type).Nodup) (h : f ∈ fs) :
    (children fs x).find? (·.type = f.type) = f.child? x := by
  induction fs with
  | nil => cases h
  | cons g gs ih =>
    rw [List.map_cons, List.nodup_cons] at distinct
    rw [children_cons, List.find?_append]
    rcases List.mem_cons.mp h with rfl | h
    · cases child : f.child? x with
      | some e => simp [type_of_child? child]
      | none =>
        -- the fields behind have other types
        have absent : (children gs x).find? (·.type = f.type) = none := by
          rw [List.find?_eq_none]
          intro e he same
          have mem := (map_type_children_sublist gs x).subset (List.mem_map_of_mem he)
          rw [of_decide_eq_true same] at mem
          exact distinct.1 mem
        simp [absent]
    · have other : g.type ≠ f.type := by
        intro same
        rw [same] at distinct
        exact distinct.1 (List.mem_map_of_mem h)
      cases child : g.child? x with
      | none => simpa using ih distinct.2 h
      | some e => simpa [type_of_child? child, other] using ih distinct.2 h

end Declared

/-! ### Layouts of single fields -/

namespace Declared

variable {α : Type} (x : α) (type : UInt64)

@[simp] theorem child?_required (value : α → ChildValue) :
    (required type value).child? x = some (.make type (value x).wire) := rfl

@[simp] theorem child?_integer (get : α → UInt64) :
    (integer type get).child? x = some (.make type (NonNegativeInteger.encode (get x))) := rfl

@[simp] theorem child?_string (get : α → String) :
    (string type get).child? x = some (.make type (utf8 (get x))) := rfl

theorem child?_optional {β : Type} [DecidableEq β] (get : α → β) (default : β)
    (value : β → ChildValue) : (optional type get default value).child? x =
      if get x = default then none else some (.make type (value (get x)).wire) := by
  simp only [child?, optional]
  split <;> rfl

/-- What encoding does with a number that is unset is what is declared. -/
theorem map_element_integer? (get : α → Option UInt64) :
    (Layout.integer? type (get x)).map Layout.element =
      ((integer? type get).child? x).toList := by
  rw [integer?, child?_optional]
  cases get x with
  | none => rfl
  | some n => rfl

theorem map_element_integerUnless (default : UInt64) (get : α → UInt64) :
    (Layout.integerUnless type default (get x)).map Layout.element =
      ((integerUnless type default get).child? x).toList := by
  rw [integerUnless, child?_optional, Layout.integerUnless]
  split <;> rfl

theorem map_element_flag (get : α → Bool) :
    (Layout.flag type (get x)).map Layout.element = ((flag type get).child? x).toList := by
  rw [flag, child?_optional]
  cases get x with
  | false => rfl
  | true => rfl

end Declared

theorem Layout.wireAll_map_element {fs : List Layout} (h : ∀ f ∈ fs, f.element.wire = f.wire) :
    Element.wireAll (fs.map element) = wireAll fs := by
  induction fs with
  | nil =>
    rw [wireAll]
    rfl
  | cons f fs ih =>
    rw [List.map_cons, Element.wireAll_cons, wireAll, h f List.mem_cons_self,
      ih fun g hg => h g (List.mem_cons_of_mem f hg)]

theorem Name.element_layout (n : Name) :
    n.layout.element = .make TypeNumber.name (ChildValue.name n).wire := by
  have each : ∀ f ∈ n.components.map fun c => Layout.byteArray TypeNumber.component c.value,
      f.element.wire = f.wire := by
    intro f hf
    obtain ⟨c, -, rfl⟩ := List.mem_map.mp hf
    rw [Layout.byteArray, Layout.wire]
    rfl
  have value := Layout.wireAll_map_element each
  rw [List.map_map] at value
  exact congrArg (Element.make TypeNumber.name) value.symm

theorem Exclude.element_entryLayout (entry : ExcludeEntry) :
    (entryLayout entry).element = ChildValue.entry entry := by
  cases entry <;> rfl

theorem Exclude.element_layout (x : Exclude) :
    x.layout.element = .make TypeNumber.exclude (ChildValue.exclude x).wire := by
  have each : ∀ f ∈ x.entries.map entryLayout, f.element.wire = f.wire := by
    intro f hf
    obtain ⟨entry, -, rfl⟩ := List.mem_map.mp hf
    rw [element_entryLayout]
    cases entry with
    | component c =>
      rw [entryLayout, Layout.byteArray, Layout.wire]
      rfl
    | any =>
      rw [entryLayout, Layout.empty, Layout.wire]
      rfl
  have value := Layout.wireAll_map_element each
  have entries : Layout.element ∘ entryLayout = ChildValue.entry := funext element_entryLayout
  rw [List.map_map, entries] at value
  exact congrArg (Element.make TypeNumber.exclude) value.symm

/-! ### Children of each kind -/

section

open Declared

attribute [local simp] Record.children Record.fields map_element_integer? map_element_integerUnless
  map_element_flag Name.element_layout Exclude.element_layout

theorem ReplicationSelectors.children_eq (s : ReplicationSelectors) :
    Record.children s = children declared s := by
  simp [declared]

theorem LegacyReplicationSelectors.children_eq (s : LegacyReplicationSelectors) :
    Record.children s = children declared s := by
  have exclude : (if s.exclude.isEmpty then [] else [s.exclude.layout]).map Layout.element =
      ((optional TypeNumber.exclude (·.exclude) {} .exclude).child? s).toList := by
    obtain ⟨⟨entries⟩, mustBeFresh⟩ := s
    cases entries <;> simp [child?_optional, Exclude.isEmpty]
  simp only [Record.children, Record.fields, declared, List.map_append, exclude, map_element_flag,
    children_cons, children_nil, List.append_nil]

theorem StrategySelectors.children_eq (s : StrategySelectors) :
    Record.children s = children declared s := by
  simp [declared]

theorem PdrmStrategySelectors.children_eq (s : PdrmStrategySelectors) :
    Record.children s = children declared s := by
  simp [declared]

theorem Announcement.children_eq (a : Announcement) :
    Record.children a = children declared a := by
  obtain ⟨name, nonce, timeout⟩ := a
  by_cases h : timeout = Duration.ofMillis 4000 <;>
    cases nonce <;>
      simp [declared, child?_optional, h, defaultTimeout, ChildValue.given, ChildValue.wire]

theorem Vicinity.children_eq (v : Vicinity) : Record.children v = children declared v := by
  simp [declared, defaultScope]

theorem VicinityData.children_eq (v : VicinityData) :
    Record.children v = children declared v := by
  simp [declared]

theorem FaceStatus.children_declared (s : FaceStatus) :
    Record.children s = children declared s := by
  have period : (Layout.integer? TypeNumber.expirationPeriod
        (s.expirationPeriod.map Duration.wireMillis)).map Layout.element =
      ((optional TypeNumber.expirationPeriod (·.expirationPeriod) none
        (.given fun period => .integer period.wireMillis)).child? s).toList := by
    rw [child?_optional]
    cases s.expirationPeriod <;> rfl
  simp [declared, TrafficCounters.declared, TrafficCounters.layout, period, -map_element_integer?]

theorem ForwarderStatus.children_declared (s : ForwarderStatus) :
    Record.children s = children declared s := by
  simp [declared, TrafficCounters.declared, TrafficCounters.layout]

end

/-! ### Records inside records -/

section

variable {α ε : Type} [Record α] [Editable α ε] [Usage α ε] [Invariant α] [LawfulRecord α ε]
  {p : Provenance} {x : α} {c : Cached α}

/-- The whole of what encoding afresh gives. -/
theorem Record.encodeFresh_eq (valid : Invariant.Valid p x) (fits : Fits x) :
    encodeFresh x = ⟨.make (kind α).type (Element.wireAll (children x)), some (children x)⟩ := by
  have encoded := Layout.encode_of_encode? (encodeFresh?_eq valid fits)
  rw [children, (Layout.wellFormed_elements (LawfulRecord.areFields valid)
    (length_of_fits fits)).2]
  exact encoded

/-- Without decoded material a record inside is written as its own fields declare. -/
theorem map_element_nestedLayout [DecidableEq α] {β : Type} {fields : List (Declared α)}
    (declared : ∀ s : α, Record.children s = Declared.children fields s) {default : α}
    (get : β → Cached α) {y : β} {present : Bool}
    (absent : present = false ↔ (get y).fields = default)
    (sound : (get y).Sound .built) (fits : Record.Fits (get y).fields) :
    (nestedLayout present (get y)).map Layout.element =
      ((Declared.optional (Record.kind α).type (fun y => (get y).fields) default
        fun s => .elements (Declared.children fields s)).child? y).toList := by
  have fresh : (get y).encoding =
      ⟨.make (Record.kind α).type (Element.wireAll (Declared.children fields (get y).fields)),
        some (Declared.children fields (get y).fields)⟩ := by
    rw [sound.encoding.fresh rfl fits, Record.encodeFresh_eq sound.valid fits, declared]
  have element : (Layout.encoded (get y).encoding.wire).element = (get y).encoding.element :=
    Layout.element_encoded sound.encoding.wellFormed.element
  rw [Declared.child?_optional, nestedLayout]
  cases present with
  | false =>
    rw [if_pos (absent.mp rfl)]
    rfl
  | true =>
    have differs : (get y).fields ≠ default := fun same => Bool.noConfusion (absent.mpr same)
    rw [if_neg differs, if_pos rfl, List.map_cons, List.map_nil, element, fresh]
    rfl

end

section

open Declared

theorem Hint.children_eq {h : Hint} (sound : h.selectors.Sound .built)
    (fits : Record.Fits h.selectors.fields) : Record.children h = children declared h := by
  have absent : h.hasSelectors = false ↔ h.selectors.fields = {} :=
    Nesting.present_eq_false_iff (x := h)
  have nested := map_element_nestedLayout ReplicationSelectors.children_eq Hint.selectors absent
    sound fits
  simp only [Record.children, fields_eq, declared, List.map_append, List.map_cons, List.map_nil,
    nested, map_element_integerUnless, Name.element_layout, children_cons, children_nil,
    child?_required, List.append_nil, List.append_assoc]
  rfl

theorem LegacyHint.children_eq {h : LegacyHint} (sound : h.selectors.Sound .built)
    (fits : Record.Fits h.selectors.fields) : Record.children h = children declared h := by
  have absent : h.hasSelectors = false ↔ h.selectors.fields = {} :=
    Nesting.present_eq_false_iff (x := h)
  have nested := map_element_nestedLayout LegacyReplicationSelectors.children_eq
    LegacyHint.selectors absent sound fits
  simp only [Record.children, fields_eq, declared, List.map_append, List.map_cons, List.map_nil,
    Layout.element_integer, nested, map_element_integerUnless, Name.element_layout, children_cons,
    children_nil, child?_required, child?_integer, List.append_nil, List.append_assoc]
  rfl

end

/-- All kinds are written as they declare. -/
theorem Kind.children_eq (k : Kind) {x : k.recordType.Fields} (valid : Invariant.Valid .built x)
    (nested : Usage.NestedFits (Usage.bare x)) :
    Record.children x = Declared.children k.declared x := by
  cases k with
  | announcement => exact Announcement.children_eq x
  | hint => exact Hint.children_eq valid nested
  | legacyHint => exact LegacyHint.children_eq valid nested
  | vicinity => exact Vicinity.children_eq x
  | vicinityData => exact VicinityData.children_eq x
  | replicationSelectors => exact ReplicationSelectors.children_eq x
  | legacyReplicationSelectors => exact LegacyReplicationSelectors.children_eq x
  | strategySelectors => exact StrategySelectors.children_eq x
  | pdrmStrategySelectors => exact PdrmStrategySelectors.children_eq x
  | faceStatus => exact FaceStatus.children_declared x
  | forwarderStatus => exact ForwarderStatus.children_declared x

/-! ### Narrowest forms -/

/-- No form of an integer is shorter than the one that is written. -/
theorem NonNegativeInteger.length_encode_le {bs : Bytes} {n : UInt64} (h : decode bs = .ok n) :
    (encode n).length ≤ bs.length := by
  obtain ⟨width, number⟩ := decode_eq_ok_iff.mp h
  have bound := ofBigEndian_lt bs
  have h1 : (0xFF : UInt64).toNat = 0xFF := rfl
  have h2 : (0xFFFF : UInt64).toNat = 0xFFFF := rfl
  have h4 : (0xFFFFFFFF : UInt64).toNat = 0xFFFFFFFF := rfl
  rw [length_encode, size]
  simp only [UInt64.le_iff_toNat_le, h1, h2, h4]
  simp only [List.mem_cons, List.not_mem_nil, or_false] at width
  rcases width with w | w | w | w <;> rw [w] at bound ⊢ <;> grind

namespace VarNumber

theorem size_le_of_toNat_lt {n : UInt64} {width : Nat} (hw : width ∈ [2, 4, 8])
    (hn : n.toNat < 256 ^ width) : size n ≤ 1 + width := by
  have h1 : (253 : UInt64).toNat = 253 := rfl
  have h2 : (0xFFFF : UInt64).toNat = 0xFFFF := rfl
  have h4 : (0xFFFFFFFF : UInt64).toNat = 0xFFFFFFFF := rfl
  rw [size]
  simp only [UInt64.lt_iff_toNat_lt, UInt64.le_iff_toNat_le, h1, h2, h4]
  simp only [List.mem_cons, List.not_mem_nil, or_false] at hw
  rcases hw with rfl | rfl | rfl <;> grind

theorem tailWidth_cases (first : UInt8) :
    first < 253 ∧ tailWidth first = 0 ∨ tailWidth first ∈ [2, 4, 8] := by
  unfold tailWidth
  split
  · exact .inl ⟨‹_›, rfl⟩
  · split
    · simp
    · split <;> simp

/-- No form of a number is shorter than the one that is written. -/
theorem size_le_of_read {bs : Bytes} {n : UInt64} {width : Nat}
    (h : read bs = .ok (n, width)) : size n ≤ width := by
  cases bs with
  | nil => cases h
  | cons first rest =>
    simp only [read] at h
    rcases tailWidth_cases first with ⟨small, zero⟩ | wide
    · rw [if_pos zero] at h
      cases h
      have own : first.toUInt64 < 253 := by
        rw [UInt64.lt_iff_toNat_lt, UInt8.toNat_toUInt64]
        exact UInt8.lt_iff_toNat_lt.mp small
      exact Nat.le_of_eq (if_pos own)
    · have nonzero : tailWidth first ≠ 0 := by
        intro zero
        rw [zero] at wide
        simp at wide
      rw [if_neg nonzero] at h
      split at h
      · cases h
      · rename_i enough
        cases h
        apply size_le_of_toNat_lt wide
        have bound := ofBigEndian_lt (rest.take (tailWidth first))
        rw [List.length_take_of_le (by omega)] at bound
        rw [UInt64.toNat_ofNat']
        exact Nat.lt_of_le_of_lt (Nat.mod_le _ _) bound

end VarNumber

/-- No element with the same type and value is shorter than the one with the narrowest header. -/
theorem Element.length_wire_make_le {e : Element} (h : e.WellFormed) :
    (make e.type e.value).wire.length ≤ e.wire.length := by
  obtain ⟨length, header, same⟩ := h
  obtain ⟨⟨type, n⟩, hn, rest⟩ := bind_eq_ok.mp header
  obtain ⟨⟨length', m⟩, hm, rest⟩ := bind_eq_ok.mp rest
  have first := VarNumber.size_le_of_read hn
  have second := VarNumber.size_le_of_read hm
  injection rest with rest
  injection rest with types rest
  injection rest with lengths count
  subst types lengths
  have number : UInt64.ofNat e.value.length = length' := by
    rw [same, UInt64.ofNat_toNat]
  show (elementBytes e.type e.value).length ≤ e.size
  rw [length_elementBytes, size_eq, valueOffset, number]
  omega

/-! ### Everything together -/

/-- Encoding a record afresh that came about without decoded material gives the element of its kind,
with the children of its fields in the declared order and no others.  No two of them have the same
type, and the child of a field is there exactly if the field is required or differs from its
default.  Integers and headers are in their shortest form. -/
theorem encodeFresh_children :
    (∀ (k : Kind) (h : Held k.recordType.Fields), h.Reachable .built → Record.Fits h.fields →
      Record.encodeFresh? h.fields = .ok (Record.encodeFresh h.fields) ∧
      (Record.encodeFresh h.fields).element =
        .make k.type (Element.wireAll (Record.encodeFresh h.fields).children) ∧
      (Record.encodeFresh h.fields).children = Declared.children k.declared h.fields ∧
      ((Record.encodeFresh h.fields).children.map Element.type).Sublist
        (k.declared.map Declared.type) ∧
      (k.declared.map Declared.type).Nodup ∧
      ∀ f ∈ k.declared, (Record.encodeFresh h.fields).find? f.type = f.child? h.fields) ∧
    (∀ (n : UInt64) (bs : Bytes), NonNegativeInteger.decode bs = .ok n →
      (NonNegativeInteger.encode n).length ≤ bs.length) ∧
    ∀ e : Element, e.WellFormed → (Element.make e.type e.value).wire.length ≤ e.wire.length := by
  refine ⟨?_, fun _ _ => NonNegativeInteger.length_encode_le, fun _ => Element.length_wire_make_le⟩
  intro k h reachable fits
  have valid := reachable.sound.valid
  have encoded := Record.encodeFresh_eq valid fits
  have children : (Record.encodeFresh h.fields).children =
      Declared.children k.declared h.fields := by
    rw [encoded]
    exact k.children_eq valid fits.2
  refine ⟨Record.encodeFresh?_eq_ok valid fits, ?_, children, ?_, k.nodup_declared, ?_⟩
  · rw [encoded, k.kind_recordType]
    rfl
  · rw [children]
    exact Declared.map_type_children_sublist _ _
  · intro f hf
    rw [Block.find?, children]
    exact Declared.find?_children k.nodup_declared hf

/-- A hint with the default scope, and with selectors in which a node's number is set to zero and
the flag is not: the name and the selectors are written, and nothing of them but the number. -/
theorem encodeFresh_children_hint :
    let h : Held Hint :=
      Held.ofFields { name := ⟨[⟨[97]⟩]⟩, selectors := { fields := { nodeId := some 0 } } }
    (Record.encodeFresh h.fields).children = [.make 7 [8, 1, 97], .make 204 [214, 1, 0]] ∧
      (Record.encodeFresh h.fields).find? TypeNumber.hintScope = none := by
  intro h
  have reachable : h.Reachable .built :=
    ⟨Held.ofFields { name := ⟨[⟨[97]⟩]⟩ }, [.edit (.inSelectors (.setNodeId (some 0)))],
      .constructed ⟨⟨[⟨[97]⟩]⟩, _, rfl⟩, by simp [Operation.Allowed, Usage.Allowed], rfl⟩
  have inside : Record.Fits h.fields.selectors.fields := ⟨by decide, trivial⟩
  have number : Record.children h.fields.selectors.fields = [.make 214 [0]] := by decide
  have selectors : h.fields.selectors.encoding =
      ⟨.make 204 [214, 1, 0], some [.make 214 [0]]⟩ := by
    have value : Element.wireAll [.make 214 [0]] = [214, 1, 0] := by decide
    have sound : h.fields.selectors.Sound .built := reachable.sound.valid
    rw [sound.encoding.fresh rfl inside, Record.encodeFresh_eq sound.valid inside, number, value]
    rfl
  have fits : Record.Fits h.fields := by
    refine ⟨?_, inside⟩
    rw [Record.estimate, Layout.estimate_eq, Record.layout, Hint.fields_eq, nestedLayout, selectors]
    decide
  obtain ⟨-, -, children, -, -, found⟩ := encodeFresh_children.1 .hint h reachable fits
  refine ⟨children.trans (by decide), ?_⟩
  exact found (Declared.integerUnless TypeNumber.hintScope 2 (·.scope))
    (List.mem_cons_of_mem _ List.mem_cons_self)

end NamedData
