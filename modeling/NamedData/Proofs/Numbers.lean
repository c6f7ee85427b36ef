/-
Numbers are written in one shortest form and read wherever they stand.

Variable-width numbers and integers have limits of their own between their widths, 253 for the one
and 256 for the other, and these limits stand in a size, in a writer and in a reader.  All of them
agree.  What is written reads back at any position of any buffer, no other form of a number is
shorter, and the order of the written forms is that of the numbers.

* `VarNumber.readAt_append` — a number reads back from the position where it was written;
* `VarNumber.moves_of_readAt` — how far reading moves, which is never less than the shortest form;
* `NonNegativeInteger.isLeast_size` — the width of an integer is the least that holds it;
* `numbers_exact` — all of it together, for what the buffer of an encoder holds.
-/
import Mathlib.Data.Nat.Basic
import Mathlib.Order.Bounds.Defs
import NamedData.Proofs.CanonicalOrder
import NamedData.Proofs.Checked
import NamedData.Proofs.Children

namespace NamedData

/-! ### Variable-width numbers -/

namespace VarNumber

theorem readAt_append (n : UInt64) (x y : Bytes) :
    readAt (x ++ encode n ++ y) x.length = .ok (n, x.length + size n) := by
  rw [readAt, List.append_assoc, List.drop_left, read_encode]
  rfl

/-- The first byte alone, or two, four or eight more. -/
theorem width_of_read {bs : Bytes} {n : UInt64} {width : Nat} (h : read bs = .ok (n, width)) :
    width ∈ [1, 3, 5, 9] := by
  cases bs with
  | nil => cases h
  | cons first rest =>
    simp only [read] at h
    split at h
    · cases h
      exact List.mem_cons_self
    · rename_i nonzero
      split at h
      · cases h
      · cases h
        rcases tailWidth_cases first with ⟨-, zero⟩ | wide
        · exact absurd zero nonzero
        · simp only [List.mem_cons, List.not_mem_nil, or_false] at wide ⊢
          omega

/-- Reading moves by the width of one of the four forms, at least by that of the shortest, and not
past the end. -/
theorem moves_of_readAt {buffer : Bytes} {position next : Nat} {n : UInt64}
    (h : readAt buffer position = .ok (n, next)) :
    ∃ width ∈ [1, 3, 5, 9], next = position + width ∧ (encode n).length ≤ width ∧
      next ≤ buffer.length := by
  have inside := (readAt_bounds h).2
  obtain ⟨⟨m, width⟩, hread, same⟩ := map_eq_ok.mp h
  cases same
  refine ⟨width, width_of_read hread, rfl, ?_, inside⟩
  rw [length_encode]
  exact size_le_of_read hread

/-- The written forms compare as the numbers do. -/
theorem compare_encode (m n : UInt64) :
    Ord.compare (encode m) (encode n) = Ord.compare m.toNat n.toNat := by
  have := compare_encode_append m n [] []
  rwa [List.append_nil, List.append_nil, List.compare_nil_nil, Ordering.then_eq] at this

end VarNumber

/-! ### Integers -/

namespace NonNegativeInteger

/-- An integer can be written to any width that holds it. -/
theorem decode_bigEndian {n : UInt64} {width : Nat} (hw : width ∈ [1, 2, 4, 8])
    (fits : n.toNat < 256 ^ width) : decode (bigEndian width n.toNat) = .ok n := by
  rw [decode_eq_ok_iff, length_bigEndian, ofBigEndian_bigEndian, Nat.mod_eq_of_lt fits]
  exact ⟨hw, rfl⟩

theorem isLeast_size (n : UInt64) :
    IsLeast {width | width ∈ [1, 2, 4, 8] ∧ n.toNat < 256 ^ width} (size n) := by
  refine ⟨⟨size_mem n, toNat_lt_size n⟩, ?_⟩
  rintro width ⟨hw, fits⟩
  have shortest := length_encode_le (decode_bigEndian hw fits)
  rwa [length_encode, length_bigEndian] at shortest

end NonNegativeInteger

/-- Writing an integer with a header puts one element in front, which decodes to the integer. -/
theorem Piece.prepend_integer (type n : UInt64) (b : EncodingBuffer) :
    let written := (Piece.integer type n).prepend.run b
    let block := Block.ofElement (.make type (NonNegativeInteger.encode n))
    written.1 = block.size ∧ written.2.contents = block.wire ++ b.contents ∧
      Block.decode block.wire = .ok block := by
  intro written block
  obtain ⟨count, contents⟩ := (Piece.integer type n).prepends b b.contents rfl
  have short : (NonNegativeInteger.encode n).length < 2 ^ 64 := by
    have narrow := NonNegativeInteger.size_mem n
    rw [NonNegativeInteger.length_encode]
    simp only [List.mem_cons, List.not_mem_nil, or_false] at narrow
    omega
  exact ⟨count, contents, Block.decode_eq_ok_iff.mpr ⟨Element.wellFormed_make short, rfl, rfl⟩⟩

/-! ### Everything together -/

/-- A variable-width number reads back from the position of any buffer where it was written, and
reading moves behind it.  Whatever form a number is read in, it takes one, three, five or nine
bytes of the buffer, no fewer than are written for it.  Read byte by byte, from a buffer whose
length is a position itself, the outcome is the same, and after an error the position is where it
was.  What is written for a greater number comes later in the order of byte strings.

An integer that is written with a header, into whatever buffer, is one element with that type
number; it decodes, and its value reads as the integer and has the least of the four widths that
hold it. -/
theorem numbers_exact :
    (∀ (n : UInt64) (b : EncodingBuffer),
      ((Encoder.prependVarNumber n).run b).1 = VarNumber.size n ∧
      ((Encoder.prependVarNumber n).run b).2.contents = VarNumber.encode n ++ b.contents) ∧
    (∀ (n : UInt64) (x y : Bytes),
      VarNumber.readAt (x ++ VarNumber.encode n ++ y) x.length =
        .ok (n, x.length + VarNumber.size n)) ∧
    (∀ (buffer : Bytes) (position next : Nat) (n : UInt64),
      VarNumber.readAt buffer position = .ok (n, next) →
        ∃ width ∈ [1, 3, 5, 9], next = position + width ∧
          (VarNumber.encode n).length ≤ width ∧ next ≤ buffer.length) ∧
    (∀ (buffer : Bytes) (position : Nat), buffer.length ≤ maxPosition →
      ∃ result next, VarNumber.readChecked buffer position = .ok (result, next) ∧
        VarNumber.readAt buffer position = result.map (·, next) ∧
        ∀ cause, result = .error cause → next = position) ∧
    (∀ m n : UInt64,
      m < n ↔ Ord.compare (VarNumber.encode m) (VarNumber.encode n) = .lt) ∧
    ∀ (type n : UInt64) (b : EncodingBuffer), ∃ block : Block,
      ((Piece.integer type n).prepend.run b).1 = block.size ∧
      ((Piece.integer type n).prepend.run b).2.contents = block.wire ++ b.contents ∧
      Block.decode block.wire = .ok block ∧ block.type = type ∧ block.integer = .ok n ∧
      IsLeast {width | width ∈ [1, 2, 4, 8] ∧ n.toNat < 256 ^ width} block.value.length := by
  refine ⟨?_, VarNumber.readAt_append, fun _ _ _ _ => VarNumber.moves_of_readAt, ?_, ?_, ?_⟩
  · intro n b
    obtain ⟨count, contents⟩ := (Piece.varNumber n).prepends b b.contents rfl
    exact ⟨count.trans (VarNumber.length_encode n), contents⟩
  · intro buffer position counted
    exact ⟨_, _, VarNumber.readChecked_eq_of_counted counted position, settled_spec _ _⟩
  · intro m n
    rw [VarNumber.compare_encode, Nat.compare_eq_lt, UInt64.lt_iff_toNat_lt]
  · intro type n b
    obtain ⟨count, contents, decoded⟩ := Piece.prepend_integer type n b
    refine ⟨_, count, contents, decoded, rfl, NonNegativeInteger.decode_encode n, ?_⟩
    show IsLeast _ (NonNegativeInteger.encode n).length
    rw [NonNegativeInteger.length_encode]
    exact NonNegativeInteger.isLeast_size n

/-- The number 5 in a form of five bytes, and one that is cut off behind its marker, both behind
another byte; and the numbers around the limit of 253, the greater of which takes three bytes. -/
theorem numbers_exact_wide :
    VarNumber.readAt [9, 254, 0, 0, 0, 5, 7] 1 = .ok (5, 6) ∧ (VarNumber.encode 5).length ≤ 5 ∧
      [9, 253, 1].length ≤ maxPosition ∧
      VarNumber.readChecked [9, 253, 1] 1 = .ok (.error (.truncated 2 1), 1) ∧
      (252 : UInt64) < 253 ∧
      Ord.compare (VarNumber.encode 252) (VarNumber.encode 253) = .lt := by
  obtain ⟨-, -, moves, checked, ordered, -⟩ := numbers_exact
  have wide : VarNumber.readAt [9, 254, 0, 0, 0, 5, 7] 1 = .ok (5, 6) := rfl
  have short : [9, 253, 1].length ≤ maxPosition := by decide
  have less : (252 : UInt64) < 253 := by decide
  refine ⟨wide, ?_, short, ?_, less, (ordered 252 253).mp less⟩
  · obtain ⟨width, -, next, enough, -⟩ := moves _ 1 6 5 wide
    omega
  · obtain ⟨result, next, run, same, kept⟩ := checked [9, 253, 1] 1 short
    cases result with
    | ok n => cases same
    | error cause =>
      cases same
      rw [run, kept _ rfl]
      rfl

end NamedData
