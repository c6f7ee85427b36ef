/-
What an error tells about the bytes that were refused.

Errors arise when a number is read, when an element is taken off a buffer, when a value is split,
and when fields are read from the children; every layer hands on what the layer below gives, scoped
to a kind.  Which kind that is follows from where decoding stopped: the kind that the type number
of the whole element announces, or the kind of the selectors inside a hint once everything before
them could be read.

* `Kind.Blames` — an error about a record of one kind itself;
* `Kind.StopsInside` — the error of the selectors inside a hint;
* `Kind.read_eq_error` — reading the children of a record gives one of these two;
* `Record.ofBlock_eq_error_iff` — the checks before the fields are read, in their order;
* `Packet.ofWire_error_classified` — how every refused byte string is classified.
-/
import NamedData.Proofs.Grammar
import NamedData.Proofs.Normalisation

namespace NamedData

/-! ### Errors about a record -/

namespace Kind

/-- The error is about a record of the kind itself: about its element or one inside it, about the
value of a field, or about a field that has to be there. Such fields are those of the status records
and the size of an older hint. -/
inductive Blames (k : Kind) : PacketError → Prop where
  | element (cause : TlvError) : k.Blames (.element k cause)
  | value (field : String) (n : UInt64) : k.Blames (.invalidValue k field n)
  | missing (field : String) (required : k.isStatus = true ∨ k = .legacyHint ∧ field = "Size") :
    k.Blames (.missingField k field)

/-- The children are those of a hint, everything before its selectors can be read, and the error is
what decoding the selectors gives. -/
inductive StopsInside : Kind → List Element → PacketError → Prop where
  | hint {es : List Element} {e : PacketError} {name : Name} {scope : Option UInt64}
    {inner : Element} (hname : Lookup.name .hint es = .ok name)
    (hscope : Lookup.integer? .hint TypeNumber.hintScope es = .ok scope)
    (found : Lookup.first? Kind.replicationSelectors.type es = some inner)
    (error : (Cached.ofBlock (Block.ofElement inner) :
      Except PacketError (Cached ReplicationSelectors)) = .error e)
    (blames : Kind.replicationSelectors.Blames e) : StopsInside .hint es e
  | legacyHint {es : List Element} {e : PacketError} {name : Name} {size : UInt64}
    {scope : Option UInt64} {inner : Element} (hname : Lookup.name .legacyHint es = .ok name)
    (hsize : LegacyHint.readSize es = .ok size)
    (hscope : Lookup.integer? .legacyHint TypeNumber.hintScope es = .ok scope)
    (found : Lookup.first? Kind.legacyReplicationSelectors.type es = some inner)
    (error : (Cached.ofBlock (Block.ofElement inner) :
      Except PacketError (Cached LegacyReplicationSelectors)) = .error e)
    (blames : Kind.legacyReplicationSelectors.Blames e) : StopsInside .legacyHint es e

theorem Blames.kind_eq {k : Kind} {e : PacketError} (h : k.Blames e) : e.kind? = some k := by
  cases h <;> rfl

/-- If the result is an error, it is about a record of the kind itself. -/
def Scoped {α : Type} (k : Kind) (r : Except PacketError α) : Prop := ∀ e, r = .error e → k.Blames e

namespace Scoped

variable {α β : Type} {k : Kind}

theorem ok (a : α) : k.Scoped (.ok a : Except PacketError α) := by
  intro e h
  cases h

theorem bind {r : Except PacketError α} {f : α → Except PacketError β} (hr : k.Scoped r)
    (hf : ∀ a, k.Scoped (f a)) : k.Scoped (r >>= f) := by
  intro e h
  rcases bind_eq_error.mp h with h | ⟨a, -, h⟩
  · exact hr e h
  · exact hf a e h

theorem map {r : Except PacketError α} {f : α → β} (hr : k.Scoped r) : k.Scoped (r.map f) :=
  fun e h => hr e (map_eq_error.mp h)

end Scoped

end Kind

/-! ### Errors of the fields -/

section

variable {k : Kind} {type : UInt64} {es : List Element} {e : PacketError}

theorem Lookup.scoped_inKind {α : Type} (r : Except TlvError α) : k.Scoped (inKind k r) := by
  intro e h
  cases r with
  | ok a => cases h
  | error cause =>
    cases h
    exact .element cause

theorem Lookup.scoped_integer? : k.Scoped (integer? k type es) := by
  rw [integer?]
  split
  · exact .ok _
  · exact (scoped_inKind _).map

theorem Lookup.scoped_name : k.Scoped (name k es) := by
  rw [name]
  split
  · exact scoped_inKind (.error _)
  · exact scoped_inKind _

theorem Announcement.scoped_findNonce : Kind.announcement.Scoped (findNonce es) := by
  rw [findNonce]
  split
  · exact .ok _
  · refine .map ?_
    rw [readNonce]
    intro e h
    split at h
    · cases h
    · split at h
      · cases h
        exact .element _
      · split at h
        · cases h
        · cases h
          exact .value _ _

theorem LegacyHint.scoped_readSize : Kind.legacyHint.Scoped (readSize es) := by
  rw [readSize]
  split
  · intro e h
    cases h
    exact .missing _ (.inr ⟨rfl, rfl⟩)
  · exact Lookup.scoped_inKind _

theorem LegacyReplicationSelectors.scoped_readExclude :
    Kind.legacyReplicationSelectors.Scoped (readExclude es) := by
  rw [readExclude]
  split
  · exact .ok _
  · exact Lookup.scoped_inKind _

theorem Content.Refuses.blames {content : Content} {field : String} {value : Bytes}
    (h : content.Refuses k field value e) : k.Blames e := by
  cases h with
  | length h => exact .element _
  | range h number beyond => exact .value _ _

/-- Only the grammars of the status records have fields that have to be there. -/
theorem Fails.blames {slots : List Slot} (status : k.isStatus = true) (h : Fails k slots es e) :
    k.Blames e := by
  -- the first violated field is somewhere in the row, and what it gives is about the kind
  induction h with
  | here violated =>
    cases violated with
    | missing required absent => exact .missing _ (.inl status)
    | refused type refused => exact refused.blames
  | later taken others ih => exact ih

end

/-! ### Errors of the selectors inside a hint -/

namespace Record

variable {α : Type} [Record α] [LawfulNumbers α] {b : Block} {e : PacketError}

/-- The type number is looked at first, then the value is split, and then the fields are read. -/
theorem ofBlock_eq_error_iff : (Cached.ofBlock b : Except PacketError (Cached α)) = .error e ↔
    (b.type ≠ (kind α).type ∧ e = .unexpectedType (kind α) (kind α).type b.type) ∨
      b.type = (kind α).type ∧ ((∃ cause, b.parse = .error cause ∧ e = .element (kind α) cause) ∨
        ∃ q, b.parse = .ok q ∧ (read q.children : Except PacketError α) = .error e) := by
  rw [Cached.ofBlock, map_eq_error, readBlock, LawfulNumbers.expected_eq]
  by_cases type : b.type = (kind α).type
  · rw [if_pos type]
    cases b.parse with
    | error cause => simp [type, eq_comm]
    | ok q =>
      show (read q.children).map _ = _ ↔ _
      rw [map_eq_error]
      simp [type]
  · rw [if_neg type]
    simp [type, eq_comm]

end Record

section

variable {α : Type} [Record α] [Record.LawfulNumbers α] {es : List Element} {e : PacketError}

/-- Selectors inside a hint are looked up by their type number, so nothing but their own fields or
their own value can be wrong with them. -/
theorem blames_of_readNested
    (own : ∀ es, (Record.kind α).Scoped (Record.read es : Except PacketError α))
    (h : (readNested es : Except PacketError (Cached α)) = .error e) :
    ∃ inner, Lookup.first? (Record.kind α).type es = some inner ∧
      (Cached.ofBlock (Block.ofElement inner) : Except PacketError (Cached α)) = .error e ∧
      (Record.kind α).Blames e := by
  rw [readNested] at h
  split at h
  · cases h
  · rename_i inner found
    refine ⟨inner, found, h, ?_⟩
    rcases Record.ofBlock_eq_error_iff.mp h with ⟨other, -⟩ | ⟨-, ⟨cause, -, rfl⟩ | ⟨q, -, read⟩⟩
    · exact absurd (Lookup.type_of_first? found) other
    · exact .element _
    · exact own _ _ read

end

/-! ### Errors of each kind -/

section

variable {es : List Element} {e : PacketError}

theorem ReplicationSelectors.scoped_read :
    Kind.replicationSelectors.Scoped
      (Record.read es : Except PacketError ReplicationSelectors) := by
  refine .bind Lookup.scoped_integer? fun nodeId => ?_
  refine .bind Lookup.scoped_integer? fun availability => ?_
  exact .ok _

theorem LegacyReplicationSelectors.scoped_read :
    Kind.legacyReplicationSelectors.Scoped
      (Record.read es : Except PacketError LegacyReplicationSelectors) := by
  refine .bind scoped_readExclude fun filter => ?_
  exact .ok _

theorem StrategySelectors.scoped_read :
    Kind.strategySelectors.Scoped (Record.read es : Except PacketError StrategySelectors) := by
  refine .bind Lookup.scoped_integer? fun scope => ?_
  refine .bind Lookup.scoped_integer? fun nodeId => ?_
  refine .bind Lookup.scoped_integer? fun availability => ?_
  exact .ok _

theorem PdrmStrategySelectors.scoped_read :
    Kind.pdrmStrategySelectors.Scoped
      (Record.read es : Except PacketError PdrmStrategySelectors) := by
  refine .bind Lookup.scoped_integer? fun scope => ?_
  refine .bind Lookup.scoped_integer? fun nodeId => ?_
  refine .bind Lookup.scoped_integer? fun homeNetwork => ?_
  refine .bind Lookup.scoped_integer? fun preferredLocation => ?_
  refine .bind Lookup.scoped_integer? fun timeSpent => ?_
  refine .bind Lookup.scoped_integer? fun currentPosition => ?_
  refine .bind Lookup.scoped_integer? fun availability => ?_
  exact .ok _

theorem Announcement.scoped_read :
    Kind.announcement.Scoped (Record.read es : Except PacketError Announcement) := by
  refine .bind Lookup.scoped_name fun name => ?_
  refine .bind scoped_findNonce fun nonce => ?_
  refine .bind Lookup.scoped_integer? fun timeout => ?_
  exact .ok _

theorem Vicinity.scoped_read :
    Kind.vicinity.Scoped (Record.read es : Except PacketError Vicinity) := by
  refine .bind Lookup.scoped_name fun name => ?_
  refine .bind Lookup.scoped_integer? fun scope => ?_
  exact .ok _

theorem VicinityData.scoped_read :
    Kind.vicinityData.Scoped (Record.read es : Except PacketError VicinityData) := by
  refine .bind Lookup.scoped_name fun name => ?_
  refine .bind Lookup.scoped_integer? fun nodeId => ?_
  exact .ok _

/-- A status record is read by a grammar. -/
theorem Reads.scoped {α : Type} {k : Kind} {r : FieldReader α} {slots : List Slot}
    (h : Reads k r slots) (status : k.isStatus = true) : k.Scoped (r es) :=
  fun e failed => ((h.error es e).mp failed).blames status

theorem Hint.read_eq_error (h : (Record.read es : Except PacketError Hint) = .error e) :
    Kind.hint.Blames e ∨ Kind.hint.StopsInside es e := by
  rcases bind_eq_error.mp h with h | ⟨name, hname, h⟩
  · exact .inl (Lookup.scoped_name e h)
  rcases bind_eq_error.mp h with h | ⟨scope, hscope, h⟩
  · exact .inl (Lookup.scoped_integer? e h)
  rcases bind_eq_error.mp h with h | ⟨selectors, -, h⟩
  · -- everything before the selectors was read
    obtain ⟨inner, found, error, blames⟩ :=
      blames_of_readNested (fun _ => ReplicationSelectors.scoped_read) h
    exact .inr (.hint hname hscope found error blames)
  · cases h

theorem LegacyHint.read_eq_error
    (h : (Record.read es : Except PacketError LegacyHint) = .error e) :
    Kind.legacyHint.Blames e ∨ Kind.legacyHint.StopsInside es e := by
  rcases bind_eq_error.mp h with h | ⟨name, hname, h⟩
  · exact .inl (Lookup.scoped_name e h)
  rcases bind_eq_error.mp h with h | ⟨size, hsize, h⟩
  · exact .inl (scoped_readSize e h)
  rcases bind_eq_error.mp h with h | ⟨scope, hscope, h⟩
  · exact .inl (Lookup.scoped_integer? e h)
  rcases bind_eq_error.mp h with h | ⟨selectors, -, h⟩
  · obtain ⟨inner, found, error, blames⟩ :=
      blames_of_readNested (fun _ => LegacyReplicationSelectors.scoped_read) h
    exact .inr (.legacyHint hname hsize hscope found error blames)
  · cases h

end

namespace Kind

variable {k : Kind} {es : List Element} {e : PacketError}

/-- What reading the children of a record of any kind gives when it fails. -/
theorem read_eq_error (h : (Record.read es : Except PacketError k.recordType.Fields) = .error e) :
    k.Blames e ∨ k.StopsInside es e := by
  cases k with
  | announcement => exact .inl (Announcement.scoped_read e h)
  | hint => exact Hint.read_eq_error h
  | legacyHint => exact LegacyHint.read_eq_error h
  | vicinity => exact .inl (Vicinity.scoped_read e h)
  | vicinityData => exact .inl (VicinityData.scoped_read e h)
  | replicationSelectors => exact .inl (ReplicationSelectors.scoped_read e h)
  | legacyReplicationSelectors => exact .inl (LegacyReplicationSelectors.scoped_read e h)
  | strategySelectors => exact .inl (StrategySelectors.scoped_read e h)
  | pdrmStrategySelectors => exact .inl (PdrmStrategySelectors.scoped_read e h)
  | faceStatus => exact .inl (Kind.Scoped.map (FaceStatus.reads.scoped rfl) e h)
  | forwarderStatus => exact .inl (Kind.Scoped.map (ForwarderStatus.reads.scoped rfl) e h)

/-- The kinds whose records carry a name. -/
def isNamed : Kind → Bool
  | .announcement => true
  | .hint => true
  | .legacyHint => true
  | .vicinity => true
  | .vicinityData => true
  | _ => false

/-- The name is looked for first. -/
theorem read_unnamed (named : k.isNamed = true) (h : ∀ c ∈ es, c.type ≠ TypeNumber.name) :
    (Record.read es : Except PacketError k.recordType.Fields) =
      .error (.element k (.missingElement TypeNumber.name)) := by
  have absent : Lookup.first? TypeNumber.name es = none := by
    simpa [Lookup.first?] using h
  have name (kind : Kind) :
      Lookup.name kind es = .error (.element kind (.missingElement TypeNumber.name)) := by
    rw [Lookup.name, absent]
  cases k with
  | announcement => exact bind_eq_error.mpr (.inl (name _))
  | hint => exact bind_eq_error.mpr (.inl (name _))
  | legacyHint => exact bind_eq_error.mpr (.inl (name _))
  | vicinity => exact bind_eq_error.mpr (.inl (name _))
  | vicinityData => exact bind_eq_error.mpr (.inl (name _))
  | _ => cases named

end Kind

/-! ### Errors of packets -/

namespace Kind

variable {k : Kind} {es : List Element} {e : PacketError}

/-- The kind of the selectors inside a hint. -/
def inner? : Kind → Option Kind
  | .hint => some .replicationSelectors
  | .legacyHint => some .legacyReplicationSelectors
  | _ => none

theorem StopsInside.inner (h : k.StopsInside es e) : ∃ inner, k.inner? = some inner ∧
    inner.Blames e := by
  cases h with
  | hint _ _ _ _ blames => exact ⟨_, rfl, blames⟩
  | legacyHint _ _ _ _ _ blames => exact ⟨_, rfl, blames⟩

/-- The error is one that a block of a kind can be refused with: about the record itself, or about
the selectors inside it. -/
def Refuses (k : Kind) (b : Block) (e : PacketError) : Prop :=
  k.Blames e ∨ ∃ es, Element.split b.value = .ok es ∧ k.StopsInside es e

/-- Every such error is about the kind or the one inside. -/
theorem Refuses.blames {b : Block} (h : k.Refuses b e) : ∃ blamed, Blames blamed e := by
  rcases h with blames | ⟨es, -, stops⟩
  · exact ⟨k, blames⟩
  · obtain ⟨inner, -, blames⟩ := stops.inner
    exact ⟨inner, blames⟩

theorem ofBlock_eq_error_iff {b : Block} :
    (Cached.ofBlock b : Except PacketError (Cached k.recordType.Fields)) = .error e ↔
      (b.type ≠ k.type ∧ e = .unexpectedType k k.type b.type) ∨
        b.type = k.type ∧ ((∃ cause, b.parse = .error cause ∧ e = .element k cause) ∨
          ∃ q, b.parse = .ok q ∧
            (Record.read q.children : Except PacketError k.recordType.Fields) = .error e) := by
  rw [Record.ofBlock_eq_error_iff, k.kind_recordType]

theorem refuses_of_ofBlock {b : Block} (hb : b.WellFormed) (type : b.type = k.type)
    (h : (Cached.ofBlock b : Except PacketError (Cached k.recordType.Fields)) = .error e) :
    k.Refuses b e := by
  rcases ofBlock_eq_error_iff.mp h with ⟨other, -⟩ | ⟨-, ⟨cause, -, rfl⟩ | ⟨q, parsed, read⟩⟩
  · exact absurd type other
  · exact .inl (.element cause)
  · obtain ⟨es, split, rfl⟩ := (Block.parse_eq_ok_iff hb).mp parsed
    rcases read_eq_error read with blames | stops
    · exact .inl blames
    · exact .inr ⟨es, split, stops⟩

end Kind

namespace Packet

variable {schema : SchemaVersion} {bs : Bytes} {b : Block} {k : Kind} {e : PacketError}

theorem ofBlockAs_eq_error_iff : ofBlockAs b k = .error e ↔
    (Cached.ofBlock b : Except PacketError (Cached k.recordType.Fields)) = .error e := by
  cases k <;> exact map_eq_error

/-- A well-formed block is refused for its type number, or for what its kind finds wrong. -/
theorem ofBlock_eq_error (hb : b.WellFormed) (h : ofBlock schema b = .error e) :
    (kindUnder? schema b.type = none ∧ e = .unknownType b.type) ∨
      ∃ k, kindUnder? schema b.type = some k ∧ k.Refuses b e := by
  rw [ofBlock] at h
  cases known : kindUnder? schema b.type with
  | none =>
    rw [known] at h
    cases h
    exact .inl ⟨rfl, rfl⟩
  | some k =>
    rw [known] at h
    have refused := ofBlockAs_eq_error_iff.mp h
    exact .inr ⟨k, rfl, Kind.refuses_of_ofBlock hb (type_of_kindUnder known) refused⟩

theorem framingError_eq (bs : Bytes) (cause : TlvError) :
    ((∀ t width, VarNumber.read bs = .ok (t, width) → Kind.ofType? t = none) ∧
        framingError bs cause = .malformed cause) ∨
      ∃ t width k, VarNumber.read bs = .ok (t, width) ∧ Kind.ofType? t = some k ∧
        framingError bs cause = .element k cause := by
  rw [framingError]
  cases read : VarNumber.read bs with
  | error e => exact .inl ⟨nofun, rfl⟩
  | ok number =>
    obtain ⟨t, width⟩ := number
    cases known : Kind.ofType? t with
    | none =>
      refine .inl ⟨?_, by simp only [known]⟩
      intro t' width' h
      cases h
      exact known
    | some k => exact .inr ⟨t, width, k, rfl, known, by simp only [known]⟩

/-- What an error tells about the bytes that were refused. -/
structure Classified (schema : SchemaVersion) (bs : Bytes) (e : PacketError) : Prop where
  /-- It is never the type number of something inside. -/
  typed : ∀ k expected actual, e ≠ .unexpectedType k expected actual
  /-- The bytes are malformed if they are not one element and announce no kind. -/
  malformed_iff : (∃ cause, e = .malformed cause) ↔ (∃ cause, Block.decode bs = .error cause) ∧
    ∀ t width, VarNumber.read bs = .ok (t, width) → Kind.ofType? t = none
  /-- If they announce a kind, it is the one that the error in the framing is scoped to. -/
  framing : ∀ cause, Block.decode bs = .error cause → e = .malformed cause ∨
    ∃ t width k, VarNumber.read bs = .ok (t, width) ∧ Kind.ofType? t = some k ∧ e = .element k cause
  /-- One element is refused because its type number has no kind under the schema, or with an error
  about its kind, or for the selectors inside a hint, before which everything can be read. -/
  blame : ∀ b, Block.decode bs = .ok b →
    (kindUnder? schema b.type = none ∧ e = .unknownType b.type) ∨
      ∃ k, kindUnder? schema b.type = some k ∧ (e.kind? = some k ∨
        ∃ inner es, k.inner? = some inner ∧ e.kind? = some inner ∧
          Element.split b.value = .ok es ∧ k.StopsInside es e)
  /-- A field is missing only where one has to be there. -/
  missing : ∀ k field, e = .missingField k field →
    k.isStatus = true ∨ k = .legacyHint ∧ field = "Size"

theorem classified_of_framing {cause : TlvError} (h : Block.decode bs = .error cause) :
    Classified schema bs (framingError bs cause) := by
  rcases framingError_eq bs cause with ⟨unknown, eq⟩ | ⟨t, width, k, read, known, eq⟩
  · rw [eq]
    refine ⟨nofun, ?_, ?_, ?_, nofun⟩
    · exact ⟨fun _ => ⟨⟨cause, h⟩, unknown⟩, fun _ => ⟨cause, rfl⟩⟩
    · intro cause' h'
      rw [h] at h'
      cases h'
      exact .inl rfl
    · intro b hb
      rw [h] at hb
      cases hb
  · rw [eq]
    refine ⟨nofun, ?_, ?_, ?_, nofun⟩
    · constructor
      · rintro ⟨cause', h'⟩
        cases h'
      · rintro ⟨-, unknown⟩
        rw [unknown t width read] at known
        cases known
    · intro cause' h'
      rw [h] at h'
      cases h'
      exact .inr ⟨t, width, k, read, known, rfl⟩
    · intro b hb
      rw [h] at hb
      cases hb

theorem classified_of_ofBlock (decoded : Block.decode bs = .ok b)
    (h : ofBlock schema b = .error e) : Classified schema bs e := by
  have wellFormed := Block.wellFormed_of_decode decoded
  have framed (cause : TlvError) : Block.decode bs ≠ .error cause := by
    rw [decoded]
    nofun
  rcases ofBlock_eq_error wellFormed h with ⟨unknown, rfl⟩ | ⟨k, known, refuses⟩
  · refine ⟨nofun, ⟨nofun, ?_⟩, fun cause h => absurd h (framed cause), ?_, nofun⟩
    · rintro ⟨⟨cause, h⟩, -⟩
      exact absurd h (framed cause)
    · intro b' hb'
      rw [decoded] at hb'
      cases hb'
      exact .inl ⟨unknown, rfl⟩
  · obtain ⟨blamed, blames⟩ := refuses.blames
    refine ⟨?_, ⟨?_, ?_⟩, fun cause h => absurd h (framed cause), ?_, ?_⟩
    · rintro k expected actual rfl
      cases blames
    · rintro ⟨cause, rfl⟩
      cases blames
    · rintro ⟨⟨cause, h⟩, -⟩
      exact absurd h (framed cause)
    · intro b' hb'
      rw [decoded] at hb'
      cases hb'
      refine .inr ⟨k, known, ?_⟩
      rcases refuses with blames | ⟨es, split, stops⟩
      · exact .inl blames.kind_eq
      · obtain ⟨inner, inside, blames⟩ := stops.inner
        exact .inr ⟨inner, es, inside, blames.kind_eq, split, stops⟩
    · rintro k field rfl
      cases blames with
      | missing field required => exact required

/-- Every error is classified. Moreover an element of a kind that has a name is refused for not
holding one as soon as its value splits; and a block of another kind is refused for its type number
before anything else is looked at, one that does not split for that, and a record that was to be
replaced stays as it was. -/
theorem ofWire_error_classified (schema : SchemaVersion) (bs : Bytes) :
    (∀ e, ofWire schema bs = .error e → Classified schema bs e) ∧
    (∀ b k es, Block.decode bs = .ok b → kindUnder? schema b.type = some k → k.isNamed = true →
      Element.split b.value = .ok es → (∀ c ∈ es, c.type ≠ 7) →
      ofWire schema bs = .error (.element k (.missingElement 7))) ∧
    ∀ (k : Kind) (b : Block),
      (b.type ≠ k.type → (Cached.ofBlock b : Except PacketError (Cached k.recordType.Fields)) =
        .error (.unexpectedType k k.type b.type)) ∧
      (b.type = k.type → ∀ cause, b.parse = .error cause →
        (Cached.ofBlock b : Except PacketError (Cached k.recordType.Fields)) =
          .error (.element k cause)) ∧
      ∀ e, (Cached.ofBlock b : Except PacketError (Cached k.recordType.Fields)) = .error e →
        ∀ s : Session k.recordType.Fields, s.step (.decode b) = (.failed e, s) := by
  refine ⟨?_, ?_, ?_⟩
  · intro e h
    rw [ofWire] at h
    split at h
    · rename_i b decoded
      exact classified_of_ofBlock decoded h
    · rename_i cause refused
      cases h
      exact classified_of_framing refused
  · intro b k es decoded known named split unnamed
    have wellFormed := Block.wellFormed_of_decode decoded
    have parsed := (Block.parse_eq_ok_iff wellFormed).mpr ⟨es, split, rfl⟩
    have refused : (Cached.ofBlock b : Except PacketError (Cached k.recordType.Fields)) =
        .error (.element k (.missingElement 7)) :=
      Kind.ofBlock_eq_error_iff.mpr (.inr ⟨type_of_kindUnder known,
        .inr ⟨_, parsed, Kind.read_unnamed named unnamed⟩⟩)
    rw [ofWire, decoded]
    show ofBlock schema b = _
    rw [ofBlock, known]
    exact ofBlockAs_eq_error_iff.mpr refused
  · intro k b
    refine ⟨?_, ?_, ?_⟩
    · intro other
      exact Kind.ofBlock_eq_error_iff.mpr (.inl ⟨other, rfl⟩)
    · intro type cause refused
      exact Kind.ofBlock_eq_error_iff.mpr (.inr ⟨type, .inl ⟨cause, refused, rfl⟩⟩)
    · intro e refused s
      rw [Session.step, Held.decode, refused]
      rfl

/-- A hint that holds one unknown child and nothing else. -/
theorem ofWire_error_classified_unnamed :
    let bs : Bytes := [201, 2, 99, 0]
    let e : PacketError := .element .hint (.missingElement 7)
    ofWire .current bs = .error e ∧ Classified .current bs e ∧
      (Cached.ofBlock (Block.ofElement ⟨201, [201, 2], [99, 0]⟩) :
        Except PacketError (Cached Vicinity)) = .error (.unexpectedType .vicinity 202 201) := by
  intro bs e
  have child : Element.WellFormed ⟨99, [99, 0], []⟩ := ⟨0, rfl, rfl⟩
  have split : Element.split [99, 0] = .ok [⟨99, [99, 0], []⟩] :=
    Element.split_eq_ok_iff.mpr ⟨List.forall_mem_singleton.mpr child, rfl⟩
  obtain ⟨classified, unnamed, blocks⟩ := ofWire_error_classified .current bs
  have refused : ofWire .current bs = .error e :=
    unnamed (Block.ofElement ⟨201, [201, 2], [99, 0]⟩) .hint _ rfl rfl rfl split (by decide)
  exact ⟨refused, classified e refused, (blocks .vicinity _).1 (by decide)⟩

end Packet

end NamedData
