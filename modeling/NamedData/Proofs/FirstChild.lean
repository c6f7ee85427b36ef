/-
Packets and selectors depend on the first child of each type that they look up, and on nothing
else.

Each of these nine kinds finds its fields by their type numbers.  So neither the decoded fields nor
the error, if there is one, can tell in which order children of different types stand, whether
there are children of other types or later ones of a type that was found already, or how wide the
headers are written.  This includes the records inside a record: names, filters and selectors are
themselves decoded from the value of the child and from no other part of it.

* `Kind.lookups` — the types that reading a record of a kind looks up;
* `Disturbs` — one change to a sequence of children that goes unnoticed, and `Rearranged` — any
  number of them;
* `Disturbs.agree` — such a change keeps the first child of each of these types;
* `Kind.decoded_eq_of_first_children` — children that agree on the types looked up, and children
  that are some such changes apart, give the same fields or the same error.
-/
import NamedData.Proofs.Nested

namespace NamedData

/-! ### Lookups -/

/-- What a reader takes from the first child of a type. -/
inductive Use where
  /-- The bytes of its value. -/
  | value
  /-- Only that it is there. -/
  | presence
deriving DecidableEq, Repr

/-- What is taken from a child that was found. -/
def Use.take : Use → Element → Bytes
  | .value, e => e.value
  | .presence, _ => []

/-- The types of the children that reading a record of a kind looks up, and what it takes from the
first of each. Status records are read child by child instead. -/
def Kind.lookups : Kind → List (UInt64 × Use)
  | .announcement =>
    [(TypeNumber.name, .value), (TypeNumber.nonce, .value), (TypeNumber.timeout, .value)]
  | .hint =>
    [(TypeNumber.name, .value), (TypeNumber.hintScope, .value),
      (Kind.replicationSelectors.type, .value)]
  | .legacyHint =>
    [(TypeNumber.name, .value), (TypeNumber.size, .value), (TypeNumber.hintScope, .value),
      (Kind.legacyReplicationSelectors.type, .value)]
  | .vicinity => [(TypeNumber.name, .value), (TypeNumber.scope, .value)]
  | .vicinityData => [(TypeNumber.name, .value), (TypeNumber.nodeId, .value)]
  | .replicationSelectors =>
    [(TypeNumber.nodeId, .value), (TypeNumber.interested, .presence),
      (TypeNumber.availability, .value)]
  | .legacyReplicationSelectors =>
    [(TypeNumber.exclude, .value), (TypeNumber.mustBeFresh, .presence)]
  | .strategySelectors =>
    [(TypeNumber.scope, .value), (TypeNumber.nodeId, .value), (TypeNumber.interested, .presence),
      (TypeNumber.availability, .value)]
  | .pdrmStrategySelectors =>
    [(TypeNumber.pdrmScope, .value), (TypeNumber.pdrmNodeId, .value),
      (TypeNumber.pdrmHomeNetwork, .value), (TypeNumber.pdrmPreferredLocation, .value),
      (TypeNumber.pdrmTimeSpent, .value), (TypeNumber.pdrmCurrentPosition, .value),
      (TypeNumber.pdrmAvailability, .value), (TypeNumber.pdrmInterest, .presence)]
  | .faceStatus => []
  | .forwarderStatus => []

/-- Two sequences of children agree on a type: neither has a child of it, or the same is taken from
the first one in each. -/
def Agree (type : UInt64) (use : Use) (as bs : List Element) : Prop :=
  (Lookup.first? type as).map use.take = (Lookup.first? type bs).map use.take

instance (type : UInt64) (use : Use) (as bs : List Element) : Decidable (Agree type use as bs) :=
  inferInstanceAs (Decidable (_ = _))

variable {type : UInt64} {as bs : List Element}

theorem Agree.cases (h : Agree type .value as bs) :
    (Lookup.first? type as = none ∧ Lookup.first? type bs = none) ∨
      ∃ d e, Lookup.first? type as = some d ∧ Lookup.first? type bs = some e ∧
        d.type = e.type ∧ d.value = e.value := by
  unfold Agree at h
  cases hd : Lookup.first? type as with
  | none =>
    left
    rw [hd] at h
    exact ⟨rfl, Option.map_eq_none_iff.mp h.symm⟩
  | some d =>
    right
    rw [hd] at h
    obtain ⟨e, he, value⟩ := Option.map_eq_some_iff.mp h.symm
    refine ⟨d, e, rfl, he, ?_, value.symm⟩
    rw [Lookup.type_of_first? hd, Lookup.type_of_first? he]

/-- Both sequences lack a child of the type, or what their first ones say is the same. -/
@[elab_as_elim]
theorem Agree.both {motive : Option Element → Option Element → Prop}
    (h : Agree type .value as bs) (absent : motive none none)
    (found : ∀ d e : Element, d.type = e.type → d.value = e.value → motive (some d) (some e)) :
    motive (Lookup.first? type as) (Lookup.first? type bs) := by
  rcases h.cases with ⟨ha, hb⟩ | ⟨d, e, hd, he, type, value⟩
  · rw [ha, hb]
    exact absent
  · rw [hd, he]
    exact found d e type value

/-! ### Fields -/

section

variable {kind : Kind}

theorem Lookup.has_congr (h : Agree type .presence as bs) : has type as = has type bs := by
  have := congrArg Option.isSome h
  rwa [Option.isSome_map, Option.isSome_map] at this

theorem Lookup.integer?_congr (h : Agree type .value as bs) :
    integer? kind type as = integer? kind type bs := by
  unfold integer?
  exact h.both rfl fun d e _ value => by simp only [value]

/-- What is made of the children of an element depends on its value alone, also when the value does
not split. -/
theorem Block.parse_bind_congr {β : Type} {d e : Element} (value : d.value = e.value)
    (f : List Element → Except TlvError β) :
    ((ofElement d).parse >>= fun p => f p.children) =
      ((ofElement e).parse >>= fun p => f p.children) := by
  show ((Element.split d.value).map _ >>= _) = ((Element.split e.value).map _ >>= _)
  rw [value]
  cases Element.split e.value <;> rfl

theorem Name.ofBlock_congr {d e : Element} (type : d.type = e.type) (value : d.value = e.value) :
    ofBlock (Block.ofElement d) = ofBlock (Block.ofElement e) := by
  have types : (Block.ofElement d).type = (Block.ofElement e).type := type
  have children := Block.parse_bind_congr value fun es => do
    let components ← es.mapM readComponent
    return (⟨components⟩ : Name)
  rw [ofBlock, ofBlock, children, types]

theorem Exclude.ofBlock_congr {d e : Element} (type : d.type = e.type)
    (value : d.value = e.value) : ofBlock (Block.ofElement d) = ofBlock (Block.ofElement e) := by
  have types : (Block.ofElement d).type = (Block.ofElement e).type := type
  have children := Block.parse_bind_congr value fun es =>
    if es.isEmpty then throw (.invalidExclude .empty)
    else do
      let entries ← readEntries none es
      return (⟨entries⟩ : Exclude)
  rw [ofBlock, ofBlock, children, types]

theorem Lookup.name_congr (h : Agree TypeNumber.name .value as bs) :
    name kind as = name kind bs := by
  unfold name
  exact h.both rfl fun d e type value => by simp only [Name.ofBlock_congr type value]

end

/-! ### Records -/

section

variable {α : Type} [Record α]

theorem Cached.fields_ofBlock_congr {d e : Element} (type : d.type = e.type)
    (value : d.value = e.value) :
    (ofBlock (Block.ofElement d) : Except PacketError (Cached α)).map fields =
      (ofBlock (Block.ofElement e)).map fields := by
  have types : (Block.ofElement d).type = (Block.ofElement e).type := type
  have parsed (c : Element) : (Block.ofElement c).parse =
      (Element.split c.value).map fun es => ⟨c, some es⟩ := rfl
  rw [ofBlock, ofBlock, Record.readBlock, Record.readBlock, parsed, parsed, value, types]
  by_cases right : (Block.ofElement e).type = Record.expectedType α
  · rw [if_pos right, if_pos right]
    cases Element.split e.value with
    | error cause => rfl
    | ok es =>
      -- the two records keep different encodings, but their fields are read from the same children
      show Except.map _ (Except.map _ (Except.map _ (Record.read es : Except PacketError α))) =
        Except.map _ (Except.map _ (Except.map _ (Record.read es)))
      cases (Record.read es : Except PacketError α) <;> rfl
  · rw [if_neg right, if_neg right]

end

/-- What is made of the fields of a record that was decoded does not show its encoding. -/
theorem Cached.map_bind_congr {α β γ : Type} {x y : Except PacketError (Cached α)}
    {make : Cached α → β} {bare : β → γ} (same : x.map fields = y.map fields)
    (hidden : ∀ c d : Cached α, c.fields = d.fields → bare (make c) = bare (make d)) :
    (x >>= fun c => (.ok (make c) : Except PacketError β)).map bare =
      (y >>= fun c => .ok (make c)).map bare := by
  cases x with
  | error e =>
    cases y with
    | error e' =>
      injection same with same
      rw [same]
    | ok d => cases same
  | ok c =>
    cases y with
    | error e' => cases same
    | ok d =>
      injection same with same
      exact congrArg Except.ok (hidden c d same)

theorem Announcement.read_congr (name : Agree TypeNumber.name .value as bs)
    (nonce : Agree TypeNumber.nonce .value as bs)
    (timeout : Agree TypeNumber.timeout .value as bs) :
    (Record.read as : Except PacketError Announcement) = Record.read bs := by
  have sameNonce : findNonce as = findNonce bs := by
    unfold findNonce
    exact nonce.both rfl fun d e _ value => by simp only [value]
  simp only [Record.read, Lookup.name_congr name, sameNonce, Lookup.integer?_congr timeout]

theorem readNested_congr {α : Type} [Record α] (same : Agree (Record.kind α).type .value as bs) :
    (readNested as : Except PacketError (Cached α)).map Cached.fields =
      (readNested bs).map Cached.fields := by
  unfold readNested
  exact same.both rfl fun d e type value => Cached.fields_ofBlock_congr type value

theorem Hint.read_congr (name : Agree TypeNumber.name .value as bs)
    (scope : Agree TypeNumber.hintScope .value as bs)
    (selectors : Agree Kind.replicationSelectors.type .value as bs) :
    (Record.read as : Except PacketError Hint).map Usage.bare =
      (Record.read bs).map Usage.bare := by
  have sameSelectors : (readSelectors as).map Cached.fields =
      (readSelectors bs).map Cached.fields := readNested_congr (α := ReplicationSelectors) selectors
  simp only [Record.read, Lookup.name_congr name, Lookup.integer?_congr scope]
  -- the selectors are read last, and they alone differ in what they keep
  cases Lookup.name .hint bs with
  | error e => rfl
  | ok name =>
    cases Lookup.integer? .hint TypeNumber.hintScope bs with
    | error e => rfl
    | ok scope =>
      refine Cached.map_bind_congr sameSelectors ?_
      intro c d same
      simp only [Usage.bare, same]

theorem LegacyHint.read_congr (name : Agree TypeNumber.name .value as bs)
    (size : Agree TypeNumber.size .value as bs)
    (scope : Agree TypeNumber.hintScope .value as bs)
    (selectors : Agree Kind.legacyReplicationSelectors.type .value as bs) :
    (Record.read as : Except PacketError LegacyHint).map Usage.bare =
      (Record.read bs).map Usage.bare := by
  have sameSize : readSize as = readSize bs := by
    unfold readSize
    exact size.both rfl fun d e _ value => by simp only [value]
  have sameSelectors : (readSelectors as).map Cached.fields =
      (readSelectors bs).map Cached.fields :=
    readNested_congr (α := LegacyReplicationSelectors) selectors
  simp only [Record.read, Lookup.name_congr name, sameSize, Lookup.integer?_congr scope]
  cases Lookup.name .legacyHint bs with
  | error e => rfl
  | ok name =>
    cases readSize bs with
    | error e => rfl
    | ok size =>
      cases Lookup.integer? .legacyHint TypeNumber.hintScope bs with
      | error e => rfl
      | ok scope =>
        refine Cached.map_bind_congr sameSelectors ?_
        intro c d same
        simp only [Usage.bare, same]

theorem Vicinity.read_congr (name : Agree TypeNumber.name .value as bs)
    (scope : Agree TypeNumber.scope .value as bs) :
    (Record.read as : Except PacketError Vicinity) = Record.read bs := by
  simp only [Record.read, Lookup.name_congr name, Lookup.integer?_congr scope]

theorem VicinityData.read_congr (name : Agree TypeNumber.name .value as bs)
    (nodeId : Agree TypeNumber.nodeId .value as bs) :
    (Record.read as : Except PacketError VicinityData) = Record.read bs := by
  simp only [Record.read, Lookup.name_congr name, Lookup.integer?_congr nodeId]

theorem ReplicationSelectors.read_congr (nodeId : Agree TypeNumber.nodeId .value as bs)
    (interested : Agree TypeNumber.interested .presence as bs)
    (availability : Agree TypeNumber.availability .value as bs) :
    (Record.read as : Except PacketError ReplicationSelectors) = Record.read bs := by
  simp only [Record.read, Lookup.integer?_congr nodeId, Lookup.has_congr interested,
    Lookup.integer?_congr availability]

theorem LegacyReplicationSelectors.read_congr (exclude : Agree TypeNumber.exclude .value as bs)
    (mustBeFresh : Agree TypeNumber.mustBeFresh .presence as bs) :
    (Record.read as : Except PacketError LegacyReplicationSelectors) = Record.read bs := by
  have sameExclude : readExclude as = readExclude bs := by
    unfold readExclude
    exact exclude.both rfl fun d e type value => by
      simp only [Exclude.ofBlock_congr type value]
  simp only [Record.read, sameExclude, Lookup.has_congr mustBeFresh]

theorem StrategySelectors.read_congr (scope : Agree TypeNumber.scope .value as bs)
    (nodeId : Agree TypeNumber.nodeId .value as bs)
    (interested : Agree TypeNumber.interested .presence as bs)
    (availability : Agree TypeNumber.availability .value as bs) :
    (Record.read as : Except PacketError StrategySelectors) = Record.read bs := by
  simp only [Record.read, Lookup.integer?_congr scope, Lookup.integer?_congr nodeId,
    Lookup.has_congr interested, Lookup.integer?_congr availability]

namespace Kind

/-- Children that agree on the types that a kind looks up are read as the same fields, or refused
for the same reason. -/
theorem read_congr {k : Kind} (found : k.isStatus = false)
    (h : ∀ l ∈ k.lookups, Agree l.1 l.2 as bs) :
    (Record.read as : Except PacketError k.recordType.Fields).map Usage.bare =
      (Record.read bs).map Usage.bare := by
  cases k with
  | announcement =>
    simp only [lookups, List.forall_mem_cons] at h
    obtain ⟨name, nonce, timeout, -⟩ := h
    exact congrArg _ (Announcement.read_congr name nonce timeout)
  | hint =>
    simp only [lookups, List.forall_mem_cons] at h
    obtain ⟨name, scope, selectors, -⟩ := h
    exact Hint.read_congr name scope selectors
  | legacyHint =>
    simp only [lookups, List.forall_mem_cons] at h
    obtain ⟨name, size, scope, selectors, -⟩ := h
    exact LegacyHint.read_congr name size scope selectors
  | vicinity =>
    simp only [lookups, List.forall_mem_cons] at h
    obtain ⟨name, scope, -⟩ := h
    exact congrArg _ (Vicinity.read_congr name scope)
  | vicinityData =>
    simp only [lookups, List.forall_mem_cons] at h
    obtain ⟨name, nodeId, -⟩ := h
    exact congrArg _ (VicinityData.read_congr name nodeId)
  | replicationSelectors =>
    simp only [lookups, List.forall_mem_cons] at h
    obtain ⟨nodeId, interested, availability, -⟩ := h
    exact congrArg _ (ReplicationSelectors.read_congr nodeId interested availability)
  | legacyReplicationSelectors =>
    simp only [lookups, List.forall_mem_cons] at h
    obtain ⟨exclude, mustBeFresh, -⟩ := h
    exact congrArg _ (LegacyReplicationSelectors.read_congr exclude mustBeFresh)
  | strategySelectors =>
    simp only [lookups, List.forall_mem_cons] at h
    obtain ⟨scope, nodeId, interested, availability, -⟩ := h
    exact congrArg _ (StrategySelectors.read_congr scope nodeId interested availability)
  | pdrmStrategySelectors =>
    simp only [lookups, List.forall_mem_cons] at h
    obtain ⟨scope, nodeId, home, preferred, time, position, availability, interest, -⟩ := h
    have same : (Record.read as : Except PacketError PdrmStrategySelectors) = Record.read bs := by
      simp only [Record.read, Lookup.integer?_congr scope, Lookup.integer?_congr nodeId,
        Lookup.integer?_congr home, Lookup.integer?_congr preferred, Lookup.integer?_congr time,
        Lookup.integer?_congr position, Lookup.integer?_congr availability,
        Lookup.has_congr interest]
    exact congrArg _ same
  | faceStatus => cases found
  | forwarderStatus => cases found

end Kind

/-! ### Changes that go unnoticed -/

/-- One change to the children of a record of a kind: two neighbours of different types change
places, a child of a type that the kind does not look up comes in, a child comes in somewhere
behind another of its type, or the header of a child is written in another way. -/
inductive Disturbs (k : Kind) : List Element → List Element → Prop where
  | swap (front behind : List Element) (d e : Element) (differ : d.type ≠ e.type) :
    Disturbs k (front ++ d :: e :: behind) (front ++ e :: d :: behind)
  | unknown (front behind : List Element) (e : Element)
      (ignored : ∀ l ∈ k.lookups, l.1 ≠ e.type) :
    Disturbs k (front ++ behind) (front ++ e :: behind)
  | again (front behind : List Element) (e : Element) (earlier : ∃ d ∈ front, d.type = e.type) :
    Disturbs k (front ++ behind) (front ++ e :: behind)
  | rewrite (front behind : List Element) (e : Element) (header : Bytes) :
    Disturbs k (front ++ e :: behind) (front ++ { e with header := header } :: behind)

/-- No such change concerns the first child of a type that is looked up. -/
theorem Disturbs.agree {k : Kind} (h : Disturbs k as bs) {l : UInt64 × Use} (hl : l ∈ k.lookups) :
    Agree l.1 l.2 as bs := by
  obtain ⟨type, use⟩ := l
  unfold Agree
  cases h with
  | swap front behind d e differ =>
    congr 1
    rw [Lookup.first?_append, Lookup.first?_append]
    congr 1
    simp only [Lookup.first?_cons]
    by_cases hd : d.type = type
    · have he : e.type ≠ type := fun he => differ (hd.trans he.symm)
      simp only [hd, he, if_true, if_false]
    · simp only [hd, if_false]
  | unknown front behind e ignored =>
    congr 1
    rw [Lookup.first?_append, Lookup.first?_append, Lookup.first?_cons,
      if_neg (Ne.symm (ignored _ hl))]
  | again front behind e earlier =>
    congr 1
    rw [Lookup.first?_append, Lookup.first?_append, Lookup.first?_cons]
    by_cases he : e.type = type
    · -- the child that stands before is found, or one that stands before that
      obtain ⟨d, hd, same⟩ := earlier
      obtain ⟨first, found⟩ : ∃ first, Lookup.first? type front = some first := by
        rw [← Option.isSome_iff_exists, Lookup.first?, List.find?_isSome]
        exact ⟨d, hd, by simp [same, he]⟩
      rw [found]
      rfl
    · rw [if_neg he]
  | rewrite front behind e header =>
    -- here the child found may be another one, but it has the same type and value
    rw [Lookup.first?_append, Lookup.first?_append]
    cases Lookup.first? type front with
    | some d => rfl
    | none =>
      simp only [Lookup.first?_cons, Option.none_or]
      by_cases he : e.type = type
      · rw [if_pos he, if_pos he]
        cases use <;> rfl
      · rw [if_neg he, if_neg he]

/-- Any number of such changes, made or taken back, one after another. -/
inductive Rearranged (k : Kind) : List Element → List Element → Prop where
  | step {as bs : List Element} (h : Disturbs k as bs) : Rearranged k as bs
  | refl (as : List Element) : Rearranged k as as
  | symm {as bs : List Element} (h : Rearranged k as bs) : Rearranged k bs as
  | trans {as bs cs : List Element} (first : Rearranged k as bs) (second : Rearranged k bs cs) :
    Rearranged k as cs

theorem Rearranged.agree {k : Kind} (h : Rearranged k as bs) {l : UInt64 × Use}
    (hl : l ∈ k.lookups) : Agree l.1 l.2 as bs := by
  induction h with
  | step change => exact change.agree hl
  | refl as => rfl
  | symm _ ih => exact Eq.symm ih
  | trans _ _ first second => exact Eq.trans first second

namespace Kind

/-- The fields that a block stands for as a record of a kind, or the error that decoding it
gives. -/
def decoded (k : Kind) (b : Block) : Except PacketError k.recordType.Fields :=
  (Cached.ofBlock b).map fun c => Usage.bare c.fields

theorem decoded_of_split {k : Kind} {b : Block} {es : List Element} (hb : b.WellFormed)
    (type : b.type = k.type) (h : Element.split b.value = .ok es) :
    k.decoded b = (Record.read es).map Usage.bare := by
  rw [← k.kind_recordType] at type
  rw [← Record.fields_ofBlock hb type h, decoded]
  cases (Cached.ofBlock b : Except PacketError (Cached k.recordType.Fields)) <;> rfl

/-- Two blocks with the type number of a packet or of selectors, whose values split, decode to the
same fields or to the same error if their children agree on each type that the kind looks up.  In
particular they do so if the children of the one become those of the other when neighbours of
different types change places, children of other types and later ones of a type come in or go, and
headers are written in other ways.  The blocks' own headers do not matter either. -/
theorem decoded_eq_of_first_children (k : Kind) (found : k.isStatus = false) {a b : Block}
    {as bs : List Element} (ha : a.WellFormed) (hb : b.WellFormed) (typeA : a.type = k.type)
    (typeB : b.type = k.type) (splitA : Element.split a.value = .ok as)
    (splitB : Element.split b.value = .ok bs) :
    ((∀ l ∈ k.lookups, Agree l.1 l.2 as bs) → k.decoded a = k.decoded b) ∧
      (Rearranged k as bs → k.decoded a = k.decoded b) := by
  have agreeing (h : ∀ l ∈ k.lookups, Agree l.1 l.2 as bs) : k.decoded a = k.decoded b := by
    rw [decoded_of_split ha typeA splitA, decoded_of_split hb typeB splitB, read_congr found h]
  exact ⟨agreeing, fun rearranged => agreeing fun l hl => rearranged.agree hl⟩

/-- Selectors of a strategy with a scope, a node and the flag that it is interested.  In one other
block with a wide header an unknown child comes first, the node stands before the scope under a
wide header, and a second scope comes last.  In another one the flag has a value. -/
theorem decoded_eq_of_first_children_strategySelectors :
    let scope : Element := ⟨212, [212, 1], [3]⟩
    let node : Element := ⟨214, [214, 1], [5]⟩
    let flag : Element := ⟨215, [215, 0], []⟩
    let wide : Element := ⟨214, [253, 0, 214, 1], [5]⟩
    let other : Element := ⟨1, [1, 0], []⟩
    let later : Element := ⟨212, [212, 1], [9]⟩
    let valued : Element := ⟨215, [215, 1], [7]⟩
    let a := Block.ofElement ⟨205, [205, 8], Element.wireAll [scope, node, flag]⟩
    let b := Block.ofElement
      ⟨205, [253, 0, 205, 15], Element.wireAll [other, wide, scope, flag, later]⟩
    let c := Block.ofElement ⟨205, [205, 9], Element.wireAll [scope, node, valued]⟩
    strategySelectors.decoded a = strategySelectors.decoded b ∧
      strategySelectors.decoded a = strategySelectors.decoded c := by
  intro scope node flag wide other later valued a b c
  have wellFormed : scope.WellFormed ∧ node.WellFormed ∧ flag.WellFormed ∧ wide.WellFormed ∧
      other.WellFormed ∧ later.WellFormed ∧ valued.WellFormed :=
    ⟨⟨1, rfl, rfl⟩, ⟨1, rfl, rfl⟩, ⟨0, rfl, rfl⟩, ⟨1, rfl, rfl⟩, ⟨0, rfl, rfl⟩, ⟨1, rfl, rfl⟩,
      ⟨1, rfl, rfl⟩⟩
  have ha : Element.split a.value = .ok [scope, node, flag] :=
    Element.split_eq_ok_iff.mpr ⟨by simp [wellFormed], rfl⟩
  have hb : Element.split b.value = .ok [other, wide, scope, flag, later] :=
    Element.split_eq_ok_iff.mpr ⟨by simp [wellFormed], rfl⟩
  have hc : Element.split c.value = .ok [scope, node, valued] :=
    Element.split_eq_ok_iff.mpr ⟨by simp [wellFormed], rfl⟩
  have wellA : a.WellFormed := Block.wellFormed_ofElement ⟨8, rfl, rfl⟩
  have wellB : b.WellFormed := Block.wellFormed_ofElement ⟨15, rfl, rfl⟩
  have wellC : c.WellFormed := Block.wellFormed_ofElement ⟨9, rfl, rfl⟩
  constructor
  · refine (decoded_eq_of_first_children _ rfl wellA wellB rfl rfl ha hb).2 ?_
    have swapped := Disturbs.swap (k := strategySelectors) [] [flag] scope node (by decide)
    have rewritten := Disturbs.rewrite (k := strategySelectors) [] [scope, flag] node wide.header
    have preceded := Disturbs.unknown (k := strategySelectors) [] [wide, scope, flag] other
      (by decide)
    have followed := Disturbs.again (k := strategySelectors) [other, wide, scope, flag] [] later
      (by decide)
    exact .trans (.step swapped) (.trans (.step rewritten)
      (.trans (.step preceded) (.step followed)))
  · exact (decoded_eq_of_first_children _ rfl wellA wellC rfl rfl ha hc).1 (by decide)

end Kind

end NamedData
