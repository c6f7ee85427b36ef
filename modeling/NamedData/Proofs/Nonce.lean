/-
Setting the nonce of an announcement that keeps its encoding.

The encoding may have been written here or have come from the network, with headers wider than
needed, with several nonces, or with bytes in its name that look like one.  The place of the nonce
is found by adding up sizes: the header, the children in front, and the header of the child.  That
is where its value is (`Block.before`), so writing four bytes over four changes no length and hits
nothing else, and the bytes that come of it are an announcement again.

* `Announcement.StandsFor` — the encoding decodes to what the wire carries of the announcement;
* `Announcement.kept_upToDate` — that is so of every encoding that is kept, whatever was done to the
  announcement before, except for the empty block that stands in for no encoding;
* `Announcement.setNonce_exact` — the encoding is written over exactly where its first nonce is, if
  that has four bytes, and dropped otherwise.
-/
import NamedData.Proofs.Packets
import NamedData.Proofs.Representation

namespace NamedData

namespace Block

variable {b p : Block} {type : UInt64} {offset : Nat} {e : Element} {bs : Bytes}

/-- The value of the first child of a type, which begins at `offset`, was replaced, and nothing else
is different: not the header, not the children before and behind, not the header of the child. -/
structure Overwritten (b p : Block) (type : UInt64) (offset : Nat) (e : Element) (bs : Bytes)
    (front behind : List Element) : Prop where
  children : b.children = front ++ e :: behind
  others : ∀ d ∈ front, d.type ≠ type
  position : (b.before front e).length = offset + e.valueOffset
  wire : b.wire = b.before front e ++ e.value ++ Element.wireAll behind
  wire' : p.wire = b.before front e ++ bs ++ Element.wireAll behind
  children' : p.children = front ++ { e with value := bs } :: behind
  size : p.size = b.size
  parsed : p.isParsed = true

/-- Patching the value of the first child of a type does not fail, if there are as many bytes as the
value has and positions can be counted to the end of the block. -/
theorem exists_overwritten (hb : b.WellFormed) (found : b.findWithOffset? type = some (offset, e))
    (length : bs.length = e.value.length) (addressable : b.size ≤ maxPosition) :
    ∃ p front behind, b.patch (offset + e.valueOffset) bs = .ok p ∧
      b.Overwritten p type offset e bs front behind := by
  obtain ⟨front, behind, children, others, -, rfl⟩ := findWithOffset_eq_some_iff.mp found
  have shown : e ∈ b.children := by simp [children]
  have split := children?_of_isParsed (isParsed_of_mem shown)
  rw [children] at split
  have total := size_eq_around hb split
  have counted : (b.before front e).length + bs.length ≤ maxPosition := by omega
  have patched := (patch_child_eq_ok_iff hb split length).mpr ⟨counted, rfl⟩
  have wire' : (b.withChildren (front ++ { e with value := bs } :: behind)).wire =
      b.before front e ++ bs ++ Element.wireAll behind := by
    show b.element.header ++ Element.wireAll _ = _
    rw [before, Element.wireAll_append, Element.wireAll_cons, Element.wire]
    simp only [List.append_assoc]
  refine ⟨_, front, behind, patched, ?_⟩
  refine ⟨children, others, length_before, wire_eq_around hb split, wire', rfl, ?_, rfl⟩
  show (Block.wire _).length = b.wire.length
  rw [wire', wire_eq_around hb split]
  simp only [List.length_append, length]

end Block

namespace Announcement

variable {a : Announcement} {b p : Block} {n : UInt32} {c : Cached Announcement}

theorem nonceBytes_eq (n : UInt32) :
    nonceBytes n = (List.range 4).map fun i => UInt8.ofNat (n.toNat / 256 ^ i) := by
  simp [nonceBytes, bigEndian, Nat.div_div_eq_div_mul, List.range_succ]

/-- The block is an announcement that was split, and reads as what the wire carries of this one. -/
structure StandsFor (b : Block) (a : Announcement) : Prop where
  wellFormed : b.WellFormed
  parsed : b.isParsed = true
  type : b.type = (Record.kind Announcement).type
  read : Record.read b.children = .ok a.cut

theorem StandsFor.ofBlock (h : StandsFor b a) : Cached.ofBlock b = .ok ⟨a.cut, some b⟩ :=
  Record.ofBlock_eq_ok_iff.mpr ⟨h.type, b, Block.parse_of_isParsed h.parsed, h.read, rfl⟩

/-- The bytes alone tell as much. -/
theorem StandsFor.ofWire (h : StandsFor b a) : Cached.ofWire b.wire = .ok ⟨a.cut, some b⟩ := by
  have whole : Block.decode b.wire = .ok (Block.ofElement b.element) :=
    Block.decode_eq_ok_iff.mpr ⟨h.wellFormed.element, rfl, rfl⟩
  rw [Cached.ofWire, whole]
  exact (Record.ofBlock_ofElement h.wellFormed).trans h.ofBlock

/-- An encoding that is kept stands for the announcement, unless there was none to keep. -/
def UpToDate (c : Cached Announcement) : Prop :=
  ∀ b, c.wire? = some b → b = Block.empty ∨ StandsFor b c.fields

theorem upToDate_of_unencoded (h : c.wire? = none) : UpToDate c := by
  intro b hb
  rw [h] at hb
  cases hb

/-- Encoding gives the empty block if the bytes cannot be read back. -/
theorem encodeFresh_cases (a : Announcement) :
    Record.encodeFresh a = Block.empty ∨ StandsFor (Record.encodeFresh a) a := by
  cases encoded : (Record.layout a).encode? with
  | error e =>
    left
    rw [Record.encodeFresh, Layout.encode, encoded]
  | ok b =>
    right
    have size := Layout.length_lt_of_encode_group encoded
    have fresh : Record.encodeFresh a = _ :=
      Layout.encode_of_encode? (Layout.encode_group a.areFields size)
    obtain ⟨wellFormed, parsed⟩ := Record.wellFormed_encodeFresh a
    refine ⟨wellFormed, parsed, ?_, ?_⟩
    · rw [fresh]
      rfl
    · rw [fresh]
      exact read_children_cut size

theorem upToDate_encode (h : UpToDate c) : UpToDate c.encode.2 := by
  obtain ⟨fields, wire?⟩ := c
  cases wire? with
  | some b => exact h
  | none =>
    intro b hb
    have fresh : Record.encodeFresh fields = b := Option.some.inj hb
    rw [← fresh]
    exact encodeFresh_cases fields

/-- A block that was decoded stands for what it was decoded to. -/
theorem upToDate_ofBlock (hb : b.WellFormed) (h : Cached.ofBlock b = .ok c) : UpToDate c := by
  obtain ⟨type, q, parsed, read, wire⟩ := Record.ofBlock_eq_ok_iff.mp h
  have sound := Cached.sound_ofBlock hb h
  have encodes := sound.encodes q wire
  intro r hr
  rw [wire] at hr
  cases hr
  refine .inr ⟨encodes.wellFormed, encodes.parsed, ?_, ?_⟩
  · obtain ⟨es, -, rfl⟩ := (Block.parse_eq_ok_iff hb).mp parsed
    exact type
  · rw [cut_eq_self sound.valid]
    exact read

/-- An encoding with its nonce written over stands for the announcement with that nonce. -/
theorem standsFor_of_patchNonce (h : StandsFor b a) (hp : patchNonce? b n = some p) :
    StandsFor p { a with nonce := some n } := by
  obtain ⟨wellFormed, parsed⟩ := wellFormed_of_patchNonce h.parsed hp
  obtain ⟨front, e, behind, children, others, type, rfl⟩ :=
    patchNonce_children h.wellFormed h.parsed hp
  have read := h.read
  rw [children] at read
  exact ⟨wellFormed, parsed, h.type, read_replace read others type⟩

theorem upToDate_withNonce (h : UpToDate c) (n : UInt32) : UpToDate (withNonce n c) := by
  intro p hp
  obtain ⟨b, hb, hp⟩ := Option.bind_eq_some_iff.mp hp
  rcases h b hb with rfl | stands
  · -- there is no nonce in the empty block
    cases hp
  · exact .inr (standsFor_of_patchNonce stands hp)

/-- Whatever is done to an announcement, an encoding that it keeps stands for it. -/
theorem kept_upToDate : Cached.Kept (α := Announcement) UpToDate (fun _ => True)
    Block.WellFormed where
  edit {change c} _ h := by
    apply apply_cases
    · intro name
      exact upToDate_of_unencoded rfl
    · intro timeout
      exact upToDate_of_unencoded rfl
    · exact upToDate_withNonce h
    · exact h
  ofBlock := upToDate_ofBlock
  encode := upToDate_encode
  settled h := h
  nested _ h := by cases h

/-- An announcement that is constructed, decoded or made with any fields at all, and then changed,
encoded, copied and replaced in any order. -/
def Holdable (h : Held Announcement) : Prop :=
  ∃ (first : Held Announcement) (ops : List (Operation Edit)),
    (first.wire? = none ∨ first.Obtained .received) ∧
    (∀ op ∈ ops, op.Allowed (α := Announcement) .received) ∧
    ((Session.start first).run ops).2.current = h

theorem holdable_of_reachable {h : Held Announcement} (reachable : h.Reachable .received) :
    Holdable h := by
  obtain ⟨first, ops, obtained, allowed, rfl⟩ := reachable
  exact ⟨first, ops, .inr obtained, allowed, rfl⟩

theorem Holdable.upToDate {h : Held Announcement} (hh : Holdable h) : UpToDate h.toCached := by
  obtain ⟨first, ops, origin, allowed, rfl⟩ := hh
  have start : UpToDate first.toCached := by
    rcases origin with unencoded | obtained
    · exact upToDate_of_unencoded unencoded
    · cases obtained with
      | constructed hx => exact upToDate_of_unencoded rfl
      | ofBlock hb hc => exact upToDate_ofBlock hb hc
      | ofWire hc =>
        rw [Cached.ofWire] at hc
        split at hc
        · cases hc
        · rename_i b hb
          exact upToDate_ofBlock (Block.wellFormed_of_decode hb) hc
  have brings : ∀ op ∈ ops, op.Brings (fun _ => True) Block.WellFormed := by
    intro op hop
    have allowed := allowed op hop
    cases op with
    | decode b => exact allowed.2
    | _ => trivial
  exact Session.forall_records_run kept_upToDate brings (Session.forall_records_start start) _
    List.mem_cons_self

/-- Setting the nonce of an announcement that keeps its encoding, wherever that came from, if its
positions can be counted.  If the first nonce in it takes four bytes, then patching them does not
fail, and what is kept from then on differs in these bytes alone, which are the new nonce, least
significant byte first.  The old bytes decode to what the wire carries of the announcement, and the
new ones to the same with the new nonce; constructors, changes and decoding give no announcement of
which the wire carries less than all.  If there is no such nonce, no encoding is kept.  A copy that
was made before stays as it was. -/
theorem setNonce_exact {h : Held Announcement} (hh : Holdable h) (kept : h.wire? = some b)
    (addressable : b.size ≤ maxPosition) (n : UInt32) :
    let bytes := (List.range 4).map fun i => UInt8.ofNat (n.toNat / 256 ^ i)
    (∀ offset e, b.findWithOffset? TypeNumber.nonce = some (offset, e) → e.value.length = 4 →
      ∃ p front behind, b.patch (offset + e.valueOffset) bytes = .ok p ∧
        (withNonce n h.toCached).wire? = some p ∧
        b.Overwritten p TypeNumber.nonce offset e bytes front behind ∧
        Cached.ofWire b.wire = .ok ⟨h.fields.cut, some b⟩ ∧
        Cached.ofWire p.wire = .ok ⟨{ h.fields.cut with nonce := some n }, some p⟩) ∧
    ((∀ offset e, b.findWithOffset? TypeNumber.nonce = some (offset, e) → e.value.length ≠ 4) →
      (withNonce n h.toCached).wire? = none) ∧
    (h.Reachable .received → h.fields.cut = h.fields) ∧
    ((Session.start h).run [.save, .edit (.setNonce n)]).2 =
      ⟨h.withCached (withNonce n h.toCached), some h⟩ := by
  intro bytes
  have wire : (withNonce n h.toCached).wire? = patchNonce? b n := by
    rw [withNonce, kept]
    rfl
  refine ⟨?_, ?_, fun reachable => cut_eq_self reachable.sound.valid, rfl⟩
  · intro offset e found four
    have stands : StandsFor b h.fields := by
      rcases hh.upToDate b kept with rfl | stands
      · cases found
      · exact stands
    have length : (nonceBytes n).length = e.value.length := by rw [length_nonceBytes, four]
    obtain ⟨p, front, behind, patched, overwritten⟩ :=
      Block.exists_overwritten stands.wellFormed found length addressable
    have hp : patchNonce? b n = some p := by
      simp only [patchNonce?, found, four, patched, if_true]
      rfl
    rw [nonceBytes_eq] at patched overwritten
    exact ⟨p, front, behind, patched, wire.trans hp, overwritten, stands.ofWire,
      (standsFor_of_patchNonce stands hp).ofWire⟩
  · intro none
    rw [wire]
    cases hp : patchNonce? b n with
    | none => rfl
    | some p =>
      obtain ⟨front, e, behind, children, others, type, four, -⟩ := patchNonce_eq_some hp
      have found := Block.findWithOffset_eq_some_iff.mpr
        ⟨front, behind, children, others, type, rfl⟩
      exact absurd four (none _ e found)

/-- An announcement with headers wider than needed, a name that holds what looks like a nonce, and
two nonces: the first nonce is written over. -/
theorem setNonce_exact_received :
    let before : Bytes := [253, 0, 200, 253, 0, 24, 7, 8, 8, 6, 10, 4, 1, 2, 3, 4, 253, 0, 10, 4]
    let behind : Bytes := [10, 4, 5, 6, 7, 8]
    let received : Announcement := ⟨⟨[⟨[10, 4, 1, 2, 3, 4]⟩]⟩, some 0x04030201, .ofMillis 4000⟩
    ∃ b p, Cached.ofWire (before ++ [1, 2, 3, 4] ++ behind) = .ok ⟨received, some b⟩ ∧
      (withNonce 0x0d0c0b0a ⟨received, some b⟩).wire? = some p ∧
      p.wire = before ++ [10, 11, 12, 13] ++ behind ∧
      Cached.ofWire p.wire = .ok ⟨{ received with nonce := some 0x0d0c0b0a }, some p⟩ := by
  intro before behind received
  let name : Element := ⟨7, [7, 8], [8, 6, 10, 4, 1, 2, 3, 4]⟩
  let nonce : Element := ⟨10, [253, 0, 10, 4], [1, 2, 3, 4]⟩
  let children := [name, nonce, ⟨10, [10, 4], [5, 6, 7, 8]⟩]
  let b : Block := ⟨⟨200, [253, 0, 200, 253, 0, 24], Element.wireAll children⟩, some children⟩
  have wellFormed : b.WellFormed := by
    refine ⟨⟨24, rfl, rfl⟩, ?_⟩
    intro es hes
    rw [← Option.some.inj hes]
    refine Element.split_eq_ok_iff.mpr ⟨?_, rfl⟩
    have name : name.WellFormed := ⟨8, rfl, rfl⟩
    have nonce : nonce.WellFormed := ⟨4, rfl, rfl⟩
    have second : Element.WellFormed ⟨10, [10, 4], [5, 6, 7, 8]⟩ := ⟨4, rfl, rfl⟩
    simp [children, name, nonce, second]
  have whole : received.cut = received := cut_eq_self (Duration.wholeMillis_ofMillis 4000)
  have stands : StandsFor b received := by
    refine ⟨wellFormed, rfl, rfl, ?_⟩
    have name : Lookup.name .announcement children = .ok received.name :=
      Lookup.name_of_first? rfl (by decide)
    show (Lookup.name .announcement children >>= _) = _
    rw [name, whole]
    rfl
  have read : Cached.ofWire (before ++ [1, 2, 3, 4] ++ behind) = .ok ⟨received, some b⟩ := by
    have decoded := stands.ofWire
    rwa [whole] at decoded
  have reachable : Held.Reachable .received { toCached := ⟨received, some b⟩ } :=
    ⟨_, [], .ofWire read, by simp, rfl⟩
  have exact := setNonce_exact (holdable_of_reachable reachable) rfl (by decide) 0x0d0c0b0a
  obtain ⟨p, front, rest, -, kept, overwritten, -, decoded⟩ := exact.1 16 nonce rfl rfl
  -- the place is the twentieth, so what stands around the nonce is what stood around it before
  have around : before ++ ([1, 2, 3, 4] ++ behind) =
      b.before front nonce ++ ([1, 2, 3, 4] ++ Element.wireAll rest) := by
    have wire := overwritten.wire
    rwa [List.append_assoc] at wire
  obtain ⟨same, same'⟩ := List.append_inj around overwritten.position.symm
  have wire := overwritten.wire'
  rw [← same, ← List.append_cancel_left same'] at wire
  rw [exact.2.2.1 reachable] at decoded
  exact ⟨b, p, read, kept, wire, decoded⟩

end Announcement

end NamedData
