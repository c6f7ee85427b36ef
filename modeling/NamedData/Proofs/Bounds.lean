/-
No input makes decoding leave a buffer or count past the greatest position.

Every reader that walks over bytes has a checked form, in which a slice outside the buffer, a sum
that cannot be counted, a difference below zero and a loop without progress are faults.  From the
checked forms for elements and blocks the decoder of packets is put together once more here.  It
needs nothing else, since fields are looked up among children, and children are never longer than
the buffer they were cut from.

* `Block.inMemory_of_parse` — the children of a block in memory are in memory;
* `ReadsChecked` — a kind of record with the reading of its fields checked, one instance each;
* `Packet.ofWireChecked_runs` — under either schema, decoding a byte string meets no fault;
* `decoding_meets_no_fault` — every reader, from any position of any bytes, and any patch.
-/
import NamedData.Proofs.Escapes
import NamedData.Proofs.Dispatch

namespace NamedData

/-! ### Names and exclude filters -/

/-- The children of a block as they are in memory: none is longer than a buffer can be. -/
def InMemory (es : List Element) : Prop := ∀ e ∈ es, e.WellFormed ∧ e.size ≤ maxLength

theorem Element.size_le_of_mem {e : Element} {es : List Element} (h : e ∈ es) :
    e.size ≤ (wireAll es).length := by
  obtain ⟨front, behind, rfl⟩ := List.append_of_mem h
  rw [wireAll_append, wireAll_cons, List.length_append, List.length_append]
  have size : e.size = e.wire.length := rfl
  omega

/-- The children of a block in memory are in memory. -/
theorem Block.inMemory_of_parse {b p : Block} (hb : b.WellFormed) (h : b.size ≤ maxLength)
    (hp : b.parse = .ok p) : InMemory p.children := by
  obtain ⟨es, split, rfl⟩ := (Block.parse_eq_ok_iff hb).mp hp
  obtain ⟨wellFormed, whole⟩ := Element.split_eq_ok_iff.mp split
  intro e (he : e ∈ es)
  have part := Element.size_le_of_mem he
  rw [whole] at part
  have size := b.size_eq
  exact ⟨wellFormed e he, by omega⟩

/-- The name that a block stands for. -/
def Name.ofBlockChecked (b : Block) : Guarded TlvError Name :=
  if b.type = TypeNumber.name then do
    let parsed ← b.parseChecked
    let components ← Guarded.of (parsed.children.mapM readComponent)
    return ⟨components⟩
  else throw (.invalidName (.wrongType b.type))

theorem Name.ofBlockChecked_runs {b : Block} (h : b.size ≤ maxLength) :
    Runs (ofBlockChecked b) (ofBlock b) := by
  refine Runs.ite (fun _ => ?_) fun _ => Runs.throw _
  refine (Block.parseChecked_runs h).bind fun parsed _ => ?_
  exact (Runs.of _).bind fun components _ => Runs.pure _

/-- The filter that a block stands for. -/
def Exclude.ofBlockChecked (b : Block) : Guarded TlvError Exclude :=
  if b.type = TypeNumber.exclude then do
    let parsed ← b.parseChecked
    if parsed.children.isEmpty then throw (.invalidExclude .empty)
    else
      let entries ← Guarded.of (readEntries none parsed.children)
      return ⟨entries⟩
  else throw (.invalidExclude (.wrongType b.type))

theorem Exclude.ofBlockChecked_runs {b : Block} (h : b.size ≤ maxLength) :
    Runs (ofBlockChecked b) (ofBlock b) := by
  refine Runs.ite (fun _ => ?_) fun _ => Runs.throw _
  refine (Block.parseChecked_runs h).bind fun parsed _ => ?_
  refine Runs.ite (fun _ => Runs.throw _) fun _ => ?_
  exact (Runs.of _).bind fun entries _ => Runs.pure _

/-! ### Records -/

/-- An error that arose inside a record of a kind. -/
def Guarded.inKind {α : Type} (kind : Kind) (x : Guarded TlvError α) : Guarded PacketError α :=
  ExceptT.mk (x.run.map (Lookup.inKind kind))

theorem Runs.inKind {α : Type} {x : Guarded TlvError α} {r : Except TlvError α} (kind : Kind)
    (h : Runs x r) : Runs (Guarded.inKind kind x) (Lookup.inKind kind r) := by
  show x.run.map _ = _
  rw [show x.run = .ok r from h]
  rfl

theorem Lookup.eq_ok_of_inKind {α : Type} {kind : Kind} {r : Except TlvError α} {a : α}
    (h : inKind kind r = .ok a) : r = .ok a := by
  cases r with
  | error cause => cases h
  | ok b =>
    cases h
    rfl

/-- A kind of record with the reading of its fields checked. Fields that are not elements inside the
children need no check. -/
class ReadsChecked (α : Type) [Record α] where
  /-- The record that the children of its element stand for. -/
  read : List Element → Guarded PacketError α := fun es => Guarded.of (Record.read es)
  /-- Reading the children of a block in memory meets no fault. -/
  read_runs {es : List Element} (h : InMemory es) : Runs (read es) (Record.read es) := by
    exact fun _ => Runs.of _

section

variable {α : Type} [Record α] [ReadsChecked α]

/-- The record that a block stands for. -/
def Cached.ofBlockChecked (b : Block) : Guarded PacketError (Cached α) :=
  if b.type = Record.expectedType α then do
    let parsed ← Guarded.inKind (Record.kind α) b.parseChecked
    let x ← ReadsChecked.read parsed.children
    return ⟨x, some parsed⟩
  else throw (.unexpectedType (Record.kind α) (Record.expectedType α) b.type)

omit [ReadsChecked α] in
/-- The checks before the fields are read, one after another. -/
theorem Cached.ofBlock_eq_bind (b : Block) : (ofBlock b : Except PacketError (Cached α)) =
    if b.type = Record.expectedType α then do
      let parsed ← Lookup.inKind (Record.kind α) b.parse
      let x ← Record.read parsed.children
      .ok ⟨x, some parsed⟩
    else .error (.unexpectedType (Record.kind α) (Record.expectedType α) b.type) := by
  rw [ofBlock, Record.readBlock]
  split
  · cases b.parse with
    | error cause => rfl
    | ok parsed =>
      show ((Record.read parsed.children : Except PacketError α).map _).map _ =
        (Record.read parsed.children >>= _)
      cases (Record.read parsed.children : Except PacketError α) <;> rfl
  · rfl

theorem Cached.ofBlockChecked_runs {b : Block} (hb : b.WellFormed) (h : b.size ≤ maxLength) :
    Runs (ofBlockChecked b : Guarded PacketError (Cached α)) (ofBlock b) := by
  rw [ofBlock_eq_bind]
  refine Runs.ite (fun _ => ?_) fun _ => Runs.throw _
  refine ((Block.parseChecked_runs h).inKind _).bind fun parsed hp => ?_
  have inMemory := Block.inMemory_of_parse hb h (Lookup.eq_ok_of_inKind hp)
  exact (ReadsChecked.read_runs inMemory).bind fun x _ => Runs.pure _

/-- The record that the first child of its kind stands for. -/
def readNestedChecked (es : List Element) : Guarded PacketError (Cached α) :=
  match Lookup.first? (Record.kind α).type es with
  | none => return { fields := Record.initial }
  | some e => Cached.ofBlockChecked (Block.ofElement e)

theorem readNestedChecked_runs {es : List Element} (h : InMemory es) :
    Runs (readNestedChecked es : Guarded PacketError (Cached α)) (readNested es) := by
  rw [readNestedChecked, readNested]
  cases found : Lookup.first? (Record.kind α).type es with
  | none => exact Runs.pure _
  | some e =>
    obtain ⟨wellFormed, size⟩ := h e (Lookup.mem_of_first? found)
    exact Cached.ofBlockChecked_runs (Block.wellFormed_ofElement wellFormed) size

end

/-- The name in the first child that is one; there has to be one. -/
def Lookup.nameChecked (kind : Kind) (es : List Element) : Guarded PacketError Name :=
  match first? TypeNumber.name es with
  | none => throw (.element kind (.missingElement TypeNumber.name))
  | some e => Guarded.inKind kind (Name.ofBlockChecked (Block.ofElement e))

theorem Lookup.nameChecked_runs {es : List Element} (kind : Kind) (h : InMemory es) :
    Runs (nameChecked kind es) (name kind es) := by
  rw [nameChecked, name]
  cases found : first? TypeNumber.name es with
  | none => exact Runs.throw _
  | some e =>
    have size : (Block.ofElement e).size ≤ maxLength := (h e (mem_of_first? found)).2
    exact (Name.ofBlockChecked_runs size).inKind kind

instance : ReadsChecked Announcement where
  read es := do
    let name ← Lookup.nameChecked .announcement es
    let nonce ← Guarded.of (Announcement.findNonce es)
    let timeout ← Guarded.of (Lookup.integer? .announcement TypeNumber.timeout es)
    return ⟨name, nonce, (timeout.map Duration.ofMillis).getD Announcement.defaultTimeout⟩
  read_runs h := by
    refine (Lookup.nameChecked_runs _ h).bind fun name _ => ?_
    refine (Runs.of _).bind fun nonce _ => ?_
    exact (Runs.of _).bind fun timeout _ => Runs.pure _

instance : ReadsChecked Vicinity where
  read es := do
    let name ← Lookup.nameChecked .vicinity es
    let scope ← Guarded.of (Lookup.integer? .vicinity TypeNumber.scope es)
    return ⟨name, scope.getD Vicinity.defaultScope⟩
  read_runs h := by
    refine (Lookup.nameChecked_runs _ h).bind fun name _ => ?_
    exact (Runs.of _).bind fun scope _ => Runs.pure _

instance : ReadsChecked VicinityData where
  read es := do
    let name ← Lookup.nameChecked .vicinityData es
    let nodeId ← Guarded.of (Lookup.integer? .vicinityData TypeNumber.nodeId es)
    return ⟨name, nodeId⟩
  read_runs h := by
    refine (Lookup.nameChecked_runs _ h).bind fun name _ => ?_
    exact (Runs.of _).bind fun nodeId _ => Runs.pure _

instance : ReadsChecked ReplicationSelectors where

instance : ReadsChecked StrategySelectors where

instance : ReadsChecked PdrmStrategySelectors where

instance : ReadsChecked FaceStatus where

instance : ReadsChecked ForwarderStatus where

/-- The filter in the first child that is one; the empty filter when there is none. -/
def LegacyReplicationSelectors.readExcludeChecked (es : List Element) :
    Guarded PacketError Exclude :=
  match Lookup.first? TypeNumber.exclude es with
  | none => return {}
  | some e =>
    Guarded.inKind .legacyReplicationSelectors (Exclude.ofBlockChecked (Block.ofElement e))

instance : ReadsChecked LegacyReplicationSelectors where
  read es := do
    let exclude ← LegacyReplicationSelectors.readExcludeChecked es
    return ⟨exclude, Lookup.has TypeNumber.mustBeFresh es⟩
  read_runs {es} h := by
    refine Runs.bind (r := LegacyReplicationSelectors.readExclude es) ?_ fun exclude _ =>
      Runs.pure _
    rw [LegacyReplicationSelectors.readExcludeChecked, LegacyReplicationSelectors.readExclude]
    cases found : Lookup.first? TypeNumber.exclude es with
    | none => exact Runs.pure _
    | some e =>
      have size : (Block.ofElement e).size ≤ maxLength := (h e (Lookup.mem_of_first? found)).2
      exact (Exclude.ofBlockChecked_runs size).inKind _

instance : ReadsChecked Hint where
  read es := do
    let name ← Lookup.nameChecked .hint es
    let scope ← Guarded.of (Lookup.integer? .hint TypeNumber.hintScope es)
    let selectors ← readNestedChecked es
    return ⟨name, scope.getD defaultHintScope, selectors⟩
  read_runs h := by
    refine (Lookup.nameChecked_runs _ h).bind fun name _ => ?_
    refine (Runs.of _).bind fun scope _ => ?_
    exact (readNestedChecked_runs h).bind fun selectors _ => Runs.pure _

instance : ReadsChecked LegacyHint where
  read es := do
    let name ← Lookup.nameChecked .legacyHint es
    let size ← Guarded.of (LegacyHint.readSize es)
    let scope ← Guarded.of (Lookup.integer? .legacyHint TypeNumber.hintScope es)
    let selectors ← readNestedChecked es
    return ⟨name, size, scope.getD defaultHintScope, selectors⟩
  read_runs h := by
    refine (Lookup.nameChecked_runs _ h).bind fun name _ => ?_
    refine (Runs.of _).bind fun size _ => ?_
    refine (Runs.of _).bind fun scope _ => ?_
    exact (readNestedChecked_runs h).bind fun selectors _ => Runs.pure _

instance (k : Kind) : ReadsChecked k.recordType.Fields :=
  match k with
  | .announcement => inferInstanceAs (ReadsChecked Announcement)
  | .hint => inferInstanceAs (ReadsChecked Hint)
  | .legacyHint => inferInstanceAs (ReadsChecked LegacyHint)
  | .vicinity => inferInstanceAs (ReadsChecked Vicinity)
  | .vicinityData => inferInstanceAs (ReadsChecked VicinityData)
  | .replicationSelectors => inferInstanceAs (ReadsChecked ReplicationSelectors)
  | .legacyReplicationSelectors => inferInstanceAs (ReadsChecked LegacyReplicationSelectors)
  | .strategySelectors => inferInstanceAs (ReadsChecked StrategySelectors)
  | .pdrmStrategySelectors => inferInstanceAs (ReadsChecked PdrmStrategySelectors)
  | .faceStatus => inferInstanceAs (ReadsChecked FaceStatus)
  | .forwarderStatus => inferInstanceAs (ReadsChecked ForwarderStatus)

/-! ### Packets -/

namespace Packet

theorem ofBlockAs_eq (b : Block) (k : Kind) :
    ofBlockAs b k = (Cached.ofBlock b).map fun c => ofHeld k (holding c) := by
  cases k <;> rfl

/-- The packet that a block stands for under a schema. -/
def ofBlockChecked (schema : SchemaVersion) (b : Block) : Guarded PacketError Packet :=
  match kindUnder? schema b.type with
  | some k => (fun c => ofHeld k (holding c)) <$> Cached.ofBlockChecked b
  | none => throw (.unknownType b.type)

theorem ofBlockChecked_runs (schema : SchemaVersion) {b : Block} (hb : b.WellFormed)
    (h : b.size ≤ maxLength) : Runs (ofBlockChecked schema b) (ofBlock schema b) := by
  rw [ofBlockChecked, ofBlock]
  cases kindUnder? schema b.type with
  | none => exact Runs.throw _
  | some k =>
    show Runs _ (ofBlockAs b k)
    rw [ofBlockAs_eq]
    exact (Cached.ofBlockChecked_runs hb h).map _

/-- An error in the framing, scoped to the kind that a type number announces, if it could be read
and announces one. -/
def framingErrorOf (cause : TlvError) : Except TlvError UInt64 → PacketError
  | .ok type =>
    match Kind.ofType? type with
    | some kind => .element kind cause
    | none => .malformed cause
  | .error _ => .malformed cause

theorem framingError_eq_of_type (bs : Bytes) (cause : TlvError) :
    framingError bs cause = framingErrorOf cause ((VarNumber.read bs).map Prod.fst) := by
  unfold framingError framingErrorOf
  cases VarNumber.read bs <;> rfl

/-- The packet that a byte string stands for under a schema, when it is exactly one element. -/
def ofWireChecked (schema : SchemaVersion) (bs : Bytes) : Guarded PacketError Packet := do
  match ← Guarded.step (Block.decodeChecked bs).run with
  | .ok b => ofBlockChecked schema b
  | .error cause =>
    let (type, _) ← Guarded.step (VarNumber.readChecked bs 0)
    throw (framingErrorOf cause type)

theorem ofWireChecked_runs (schema : SchemaVersion) {bs : Bytes} (h : bs.length ≤ maxLength) :
    Runs (ofWireChecked schema bs) (ofWire schema bs) := by
  refine Runs.step (Block.decodeChecked_runs h) ?_
  rw [ofWire]
  cases hb : Block.decode bs with
  | ok b =>
    have wire := (Block.decode_eq_ok_iff.mp hb).2.2
    refine ofBlockChecked_runs schema (Block.wellFormed_of_decode hb) ?_
    show b.wire.length ≤ _
    rwa [wire]
  | error cause =>
    refine Runs.step (VarNumber.readChecked_eq h 0) ?_
    have type : (settled 0 (VarNumber.readAt bs 0)).1 = (VarNumber.read bs).map Prod.fst := by
      rw [VarNumber.readAt, List.drop_zero]
      cases VarNumber.read bs <;> rfl
    show Runs (throw (framingErrorOf cause (settled 0 _).1)) (.error (framingError bs cause))
    rw [framingError_eq_of_type, type]
    exact Runs.throw _

end Packet

/-! ### Everything together -/

/-- Whatever bytes come in, and wherever in them reading starts, no reader meets a fault: each gives
what the reader on lists gives, and where it fails the position stays where it was. That goes for
numbers, elements, whole blocks, dumps and packets of either schema, for splitting, finding and
patching in any block that was obtained in any way, and for texts with escapes. -/
theorem decoding_meets_no_fault {bs : Bytes} (h : bs.length ≤ maxLength) :
    (∀ position, ∃ result next, VarNumber.readChecked bs position = .ok (result, next) ∧
      VarNumber.readAt bs position = result.map (·, next) ∧
      ∀ cause, result = .error cause → next = position) ∧
    (∀ position ≤ bs.length, ∃ result next,
      Element.decodeAt bs position = .ok (result, next) ∧
      (Element.decodeFirst (bs.drop position)).map (fun (e, _) => (e, position + e.size)) =
        result.map (·, next) ∧
      ∀ cause, result = .error cause → next = position) ∧
    Runs (Block.decodeChecked bs) (Block.decode bs) ∧
    Runs (Dump.framesChecked bs 0) (Dump.frames bs) ∧
    (∀ schema, Runs (Packet.ofWireChecked schema bs) (Packet.ofWire schema bs)) ∧
    (∀ b : Block, b.Obtained → b.size ≤ maxLength →
      Runs b.parseChecked b.parse ∧
      (∀ type, b.findChecked type = .ok (b.findWithOffset? type)) ∧
      (∀ offset new, Runs (b.patchChecked offset new) (b.patch offset new)) ∧
      ∀ schema, Runs (Packet.ofBlockChecked schema b) (Packet.ofBlock schema b)) ∧
    ∀ text : String, utf8 text = bs →
      Percent.decodeChecked bs 0 = .ok (Percent.decode text.toList) := by
  refine ⟨fun position => ?_, fun position inside => ?_, Block.decodeChecked_runs h,
    Dump.framesChecked_runs h (Nat.zero_le _), fun schema => Packet.ofWireChecked_runs schema h,
    fun b obtained size => ?_, fun text same => ?_⟩
  · exact ⟨_, _, VarNumber.readChecked_eq h position, settled_spec _ _⟩
  · exact ⟨_, _, Element.decodeAt_eq h inside, settled_spec _ _⟩
  · have wellFormed := obtained.wellFormed
    exact ⟨Block.parseChecked_runs size, Block.findChecked_eq wellFormed size,
      Block.patchChecked_runs size, fun schema => Packet.ofBlockChecked_runs schema wellFormed size⟩
  · subst same
    exact Percent.decodeChecked_eq h rfl

/-- A length of `2 ^ 64 - 1` that nothing follows, read from the front and from the last position,
a patch at the last position, and an escape that is cut off. -/
theorem decoding_meets_no_fault_announced :
    let bs : Bytes := [5, 255, 255, 255, 255, 255, 255, 255, 255, 255]
    bs.length ≤ maxLength ∧ (utf8 "a%4").length ≤ maxLength ∧
    VarNumber.readChecked bs maxPosition = .ok (.error (.truncated 1 0), maxPosition) ∧
    Element.decodeAt bs 0 = .ok (.error (.truncated maxPosition 0), 0) ∧
    Runs (Packet.ofWireChecked .legacy bs) (.error (.malformed (.truncated maxPosition 0))) ∧
    Runs ((Block.ofElement ⟨5, [5, 0], []⟩).patchChecked maxPosition [1, 2])
      (.error (.truncated maxPosition 2)) ∧
    Percent.decodeChecked (utf8 "a%4") 0 = .ok none := by
  intro bs
  have short : bs.length ≤ maxLength := by decide
  have text : (utf8 "a%4").length ≤ maxLength := by decide
  obtain ⟨numbers, elements, -, -, packets, blocks, -⟩ := decoding_meets_no_fault short
  obtain ⟨-, -, -, -, -, -, texts⟩ := decoding_meets_no_fault text
  have received : Block.decode [5, 0] = .ok (Block.ofElement ⟨5, [5, 0], []⟩) := rfl
  obtain ⟨-, -, patches, -⟩ := blocks _ (.decode received) (by decide)
  refine ⟨short, text, ?_, ?_, packets .legacy, patches _ _, texts _ rfl⟩
  · obtain ⟨result, next, run, same, kept⟩ := numbers maxPosition
    cases result with
    | ok n => cases same
    | error cause =>
      cases same
      rw [run, kept _ rfl]
  · obtain ⟨result, next, run, same, kept⟩ := elements 0 (Nat.zero_le _)
    cases result with
    | ok e => cases same
    | error cause =>
      cases same
      rw [run, kept _ rfl]
      rfl

end NamedData
