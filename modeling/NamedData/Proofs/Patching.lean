/-
What patching a block does, and what it leaves alone.

Bytes of the value are written over and the block is decoded again.  The header is not touched and
the value keeps its length, so what is decoded is the same header with another value
(`Block.patch_of_inside`), whatever the bytes are.  Only splitting that value can fail, and it does
not fail when the bytes lie inside the value of a child, since that child keeps its header and its
length in turn.

* `Block.Rewritten` — all that is said of a block and of what it is after being patched;
* `Block.patchInPlace` — patching a block where it is kept;
* `Block.Obtained.patch_exact` — when patching fails and with which error, and what it gives
  otherwise.
-/
import NamedData.Proofs.Representation
import NamedData.Proofs.Truncation

namespace NamedData

/-! ### What patching gives -/

namespace Block

variable {b p : Block} {offset : Nat} {bs : Bytes} {cause : TlvError}

theorem patch_of_outside
    (h : offset < b.valueOffset ∨ b.size < min (offset + bs.length) maxPosition) :
    b.patch offset bs = .error (.truncated (min (offset + bs.length) maxPosition) b.size) :=
  if_pos h

/-- A region that is not refused ends inside the block, also where positions are counted no
further. -/
theorem inside_of_not_outside (addressable : b.size < maxPosition)
    (h : ¬ (offset < b.valueOffset ∨ b.size < min (offset + bs.length) maxPosition)) :
    b.valueOffset ≤ offset ∧ offset + bs.length ≤ b.size := by
  omega

/-- A region inside the value can always be written over, unless the block was split and would not
split any more. -/
theorem patch_eq_error_iff (hb : b.WellFormed) (start : b.valueOffset ≤ offset)
    (stop : offset + bs.length ≤ b.size) (addressable : b.size ≤ maxPosition) :
    b.patch offset bs = .error cause ↔ b.isParsed = true ∧
      Element.split (overwriteAt b.value (offset - b.valueOffset) bs) = .error cause := by
  rw [patch_of_inside hb start stop (by omega)]
  cases b.isParsed with
  | true =>
    rw [if_pos rfl, and_iff_right rfl]
    exact map_eq_error
  | false => simp

/-- The error about the region is given for no other reason. -/
theorem patch_eq_truncated_iff (hb : b.WellFormed) (addressable : b.size < maxPosition) :
    b.patch offset bs = .error (.truncated (min (offset + bs.length) maxPosition) b.size) ↔
      offset < b.valueOffset ∨ b.size < min (offset + bs.length) maxPosition := by
  refine ⟨fun failed => ?_, patch_of_outside⟩
  by_cases h : offset < b.valueOffset ∨ b.size < min (offset + bs.length) maxPosition
  · exact h
  · obtain ⟨start, stop⟩ := inside_of_not_outside addressable h
    obtain ⟨-, split⟩ := (patch_eq_error_iff hb start stop (by omega)).mp failed
    -- what does not split is announced to be longer than what there is, and the region is not
    obtain ⟨expected, actual, less, same⟩ := Element.split_eq_error split
    cases same
    omega

/-- The other block is the one with bytes of its encoding written over, from the header, which is
the same, to the children, which are read afresh, if it shows any. -/
structure Rewritten (b p : Block) (offset : Nat) (bs : Bytes) : Prop where
  wire : p.wire = overwriteAt b.wire offset bs
  value : p.value = overwriteAt b.value (offset - b.valueOffset) bs
  type : p.type = b.type
  size : p.size = b.size
  valueOffset : p.valueOffset = b.valueOffset
  parsed : p.isParsed = b.isParsed
  children : if b.isParsed then Element.split p.value = .ok p.children else p.children = []

theorem rewritten_of_patch (hb : b.WellFormed) (start : b.valueOffset ≤ offset)
    (stop : offset + bs.length ≤ b.size) (addressable : b.size ≤ maxPosition)
    (h : b.patch offset bs = .ok p) : b.Rewritten p offset bs := by
  rw [patch_of_inside hb start stop (by omega)] at h
  have size : (b.overwritten offset bs).size = b.size := by
    show (b.overwritten offset bs).wire.length = b.wire.length
    rw [wire_overwritten start]
    exact length_overwriteAt stop
  split at h
  · rename_i parsed
    obtain ⟨es, split, rfl⟩ := map_eq_ok.mp h
    exact ⟨wire_overwritten start, rfl, rfl, size, rfl, parsed.symm, by rwa [if_pos parsed]⟩
  · rename_i unsplit
    cases h
    refine ⟨wire_overwritten start, rfl, rfl, size, rfl, ?_, by rw [if_neg unsplit]; rfl⟩
    rw [Bool.eq_false_iff.mpr unsplit]
    rfl

/-- A region inside the value of a child can always be written over, and nothing else changes. -/
theorem exists_patch_of_within_child (hb : b.WellFormed) (addressable : b.size ≤ maxPosition)
    {front behind : List Element} {e : Element}
    (split : Element.split b.value = .ok (front ++ e :: behind))
    (start : b.valueOffset + ((Element.wireAll front).length + e.valueOffset) ≤ offset)
    (stop : offset + bs.length ≤
      b.valueOffset + ((Element.wireAll front).length + e.valueOffset) + e.value.length) :
    ∃ p, b.patch offset bs = .ok p ∧ b.Rewritten p offset bs ∧
      Element.split p.value = .ok (front ++ e.overwriteValue (offset - (b.valueOffset +
        ((Element.wireAll front).length + e.valueOffset))) bs :: behind) := by
  have sum := b.size_eq
  have size := e.size_eq
  -- what is behind the child is in the value too
  have room : (Element.wireAll front).length + e.size ≤ b.value.length := by
    rw [← (Element.split_eq_ok_iff.mp split).2, Element.wireAll_append, Element.wireAll_cons,
      List.length_append, List.length_append, Element.size]
    omega
  have first : b.valueOffset ≤ offset := by omega
  have last : offset + bs.length ≤ b.size := by omega
  have still : Element.split (overwriteAt b.value (offset - b.valueOffset) bs) = _ :=
    Element.split_overwriteAt split (by omega) (by omega)
  rw [Nat.sub_sub] at still
  cases patched : b.patch offset bs with
  | ok p =>
    have rewritten := rewritten_of_patch hb first last addressable patched
    exact ⟨p, rfl, rewritten, by rw [rewritten.value, still]⟩
  | error cause =>
    have := (patch_eq_error_iff hb first last addressable).mp patched
    rw [still] at this
    cases this.2

/-! ### Patching a block where it is kept -/

/-- Patching a block where it is kept. It is assigned to once, after everything that can fail. -/
def patchInPlace (offset : Nat) (bs : Bytes) : ExceptT TlvError (StateM Block) Unit := do
  let b ← getThe Block
  let stop := min (offset + bs.length) maxPosition
  if offset < b.valueOffset ∨ b.size < stop then throw (.truncated stop b.size)
  else
    let decoded ← MonadExcept.ofExcept (decode (b.wire.take offset ++ bs ++ b.wire.drop stop))
    let patched ← if b.isParsed then MonadExcept.ofExcept decoded.parse else pure decoded
    set patched

/-- What is kept is replaced by what patching gives, and left as it is when patching fails. -/
theorem run_patchInPlace (b : Block) (offset : Nat) (bs : Bytes) :
    (patchInPlace offset bs).run.run b = match b.patch offset bs with
      | .ok p => (.ok (), p)
      | .error e => (.error e, b) := by
  show StateT.run (ExceptT.run (if _ then _ else _)) b = _
  rw [patch]
  split
  · rfl
  · dsimp only
    cases decode (b.wire.take offset ++ bs ++
        b.wire.drop (min (offset + bs.length) maxPosition)) with
    | error e => rfl
    | ok decoded =>
      cases b.isParsed with
      | true =>
        simp only [MonadExcept.ofExcept, pure_bind, ok_bind, if_true]
        cases decoded.parse <;> rfl
      | false => rfl

/-! ### Everything together -/

/-- Any memory is smaller than positions go, and so is a block in it.  Patching one fails for the
region exactly if that does not lie inside the value, and the error tells where it would have ended,
or the last position if it would have ended behind that.  Inside the value it fails only if the
block was split and the new value does not split, with the error that splitting that value gives.
In either case what was kept stays as it was.  Otherwise the bytes of the region are replaced and no
others. A region inside the value of a child can always be patched; the other children stay the
same, and that child differs in these bytes alone. -/
theorem Obtained.patch_exact (obtained : b.Obtained) (addressable : b.size < maxPosition)
    (offset : Nat) (bs : Bytes) :
    let stop := min (offset + bs.length) maxPosition
    let outside := offset < b.valueOffset ∨ b.size < stop
    (b.patch offset bs = .error (.truncated stop b.size) ↔ outside) ∧
    (¬ outside → ∀ cause, b.patch offset bs = .error cause ↔ b.isParsed = true ∧
      Element.split (overwriteAt b.value (offset - b.valueOffset) bs) = .error cause) ∧
    (∀ cause, b.patch offset bs = .error cause →
      (patchInPlace offset bs).run.run b = (.error cause, b)) ∧
    (∀ p, b.patch offset bs = .ok p →
      (patchInPlace offset bs).run.run b = (.ok (), p) ∧ b.Rewritten p offset bs) ∧
    ∀ front e behind, Element.split b.value = .ok (front ++ e :: behind) →
      let start := b.valueOffset + ((Element.wireAll front).length + e.valueOffset)
      let child := e.overwriteValue (offset - start) bs
      start ≤ offset → offset + bs.length ≤ start + e.value.length →
        child.size = e.size ∧ ∃ p, b.patch offset bs = .ok p ∧
          Element.split p.value = .ok (front ++ child :: behind) ∧
          (b.isParsed = true → p.children = front ++ child :: behind) := by
  intro stop outside
  have hb := obtained.wellFormed
  have kept (cause : TlvError) (h : b.patch offset bs = .error cause) :
      (patchInPlace offset bs).run.run b = (.error cause, b) := by
    rw [run_patchInPlace, h]
  refine ⟨patch_eq_truncated_iff hb addressable, ?_, kept, ?_, ?_⟩
  · intro h cause
    obtain ⟨start, stop⟩ := inside_of_not_outside addressable h
    exact patch_eq_error_iff hb start stop (by omega)
  · intro p patched
    refine ⟨by rw [run_patchInPlace, patched], ?_⟩
    have h : ¬ outside := by
      intro h
      rw [patch_of_outside h] at patched
      cases patched
    obtain ⟨start, stop⟩ := inside_of_not_outside addressable h
    exact rewritten_of_patch hb start stop (by omega) patched
  · intro front e behind split start child first last
    have size : child.size = e.size := Element.size_overwriteValue (by omega)
    obtain ⟨p, patched, rewritten, children⟩ :=
      exists_patch_of_within_child hb (Nat.le_of_lt addressable) split first last
    refine ⟨size, p, patched, children, fun parsed => ?_⟩
    have shown := rewritten.children
    rw [if_pos parsed, children] at shown
    exact (Except.ok.inj shown).symm

/-- An announcement that was received and split, with a name and a nonce.  Two bytes of the nonce
can be written over.  If the length of the nonce is, the value does not split any more; and a region
that ends past all positions is refused with the last of them. -/
theorem Obtained.patch_exact_nonce :
    let name : Element := ⟨7, [7, 0], []⟩
    let nonce (bs : Bytes) : Element := ⟨10, [10, 4], bs⟩
    let b : Block := ⟨⟨200, [253, 0, 200, 8], Element.wireAll [name, nonce [1, 2, 3, 4]]⟩,
      some [name, nonce [1, 2, 3, 4]]⟩
    b.Obtained ∧ b.size < maxPosition ∧
      (∃ p, b.patch 9 [8, 9] = .ok p ∧ p.wire = [253, 0, 200, 8, 7, 0, 10, 4, 1, 8, 9, 4] ∧
        p.children = [name, nonce [1, 8, 9, 4]]) ∧
      b.patch 7 [5] = .error (.truncated 5 4) ∧
      (patchInPlace 7 [5]).run.run b = (.error (.truncated 5 4), b) ∧
      b.patch maxPosition [1, 2] = .error (.truncated maxPosition 12) := by
  intro name nonce b
  have hname : name.WellFormed := ⟨0, rfl, rfl⟩
  have hnonce : (nonce [1, 2, 3, 4]).WellFormed := ⟨4, rfl, rfl⟩
  have split : Element.split b.value = .ok ([name] ++ nonce [1, 2, 3, 4] :: []) :=
    Element.split_eq_ok_iff.mpr ⟨by simp [hname, hnonce], rfl⟩
  have received : (ofElement b.element).WellFormed := wellFormed_ofElement ⟨8, rfl, rfl⟩
  have decoded : Block.decode b.wire = .ok (ofElement b.element) :=
    decode_eq_ok_iff.mpr ⟨received.element, rfl, rfl⟩
  have parsed : (ofElement b.element).parse = .ok b :=
    (parse_eq_ok_iff received).mpr ⟨_, split, rfl⟩
  have obtained : b.Obtained := .parse (.decode decoded) parsed
  have addressable : b.size < maxPosition := by decide
  obtain ⟨-, -, -, rewritten, within⟩ := patch_exact obtained addressable 9 [8, 9]
  obtain ⟨-, p, patched, -, children⟩ := within [name] _ [] split (by decide) (by decide)
  obtain ⟨-, fails, kept, -⟩ := patch_exact obtained addressable 7 [5]
  -- now the nonce is announced to be longer than the block
  have cut : Element.split [7, 0, 10, 5, 1, 2, 3, 4] = .error (.truncated 5 4) := by
    have first : Element.decodeFirst [7, 0, 10, 5, 1, 2, 3, 4] =
      .ok (name, [10, 5, 1, 2, 3, 4]) := rfl
    rw [Element.split_of_decodeFirst first, Element.split_of_decodeFirst_error (by decide) rfl]
    rfl
  have refused : b.patch 7 [5] = .error (.truncated 5 4) :=
    (fails (by decide) _).mpr ⟨rfl, cut⟩
  refine ⟨obtained, addressable, ⟨p, patched, (rewritten p patched).2.wire, children rfl⟩,
    refused, kept _ refused, ?_⟩
  exact (patch_exact obtained addressable maxPosition [1, 2]).1.mpr (.inr (by decide))

end Block

end NamedData
