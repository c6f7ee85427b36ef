/-
Buffers are cut into elements in one way only.

A dump is framed by going through it with an offset, and a block is split by going through its
value without one.  Both go as far as elements can be decoded: every buffer is a run of well-formed
elements and then a rest at which decoding fails (`exists_leading`), and it is cut up exactly when
that rest is empty.  What framing and splitting give is read off this one decomposition
(`frames_wireAll_append`, `split_wireAll_append`).

* `Dump.placed` — elements with the offsets at which they begin when they follow one another;
* `Dump.frames_exact` — framing is the inverse of putting elements one after another; where it
  fails it names the first place at which there is no element; and it agrees with splitting.
-/
import NamedData.Proofs.Block
import NamedData.Inspect.Dump

namespace NamedData

/-! ### The elements at the front of a buffer -/

namespace Element

theorem two_le_of_readHeader {bs : Bytes} {type length : UInt64} {offset : Nat}
    (h : readHeader bs = .ok (type, length, offset)) : 2 ≤ offset := by
  obtain ⟨⟨t, n⟩, hn, h⟩ := bind_eq_ok.mp h
  obtain ⟨⟨l, m⟩, hm, h⟩ := bind_eq_ok.mp h
  cases h
  have typeWidth := VarNumber.read_bounds hn
  have lengthWidth := VarNumber.read_bounds hm
  omega

/-- An element takes a byte for its type number and a byte for its length at least. -/
theorem two_le_size {e : Element} (h : e.WellFormed) : 2 ≤ e.size := by
  obtain ⟨length, header, -⟩ := h
  have := two_le_of_readHeader header
  rw [size, wire, List.length_append]
  omega

theorem two_mul_length_le {es : List Element} (h : ∀ e ∈ es, e.WellFormed) :
    2 * es.length ≤ (wireAll es).length := by
  induction es with
  | nil => simp
  | cons e es ih =>
    have first := two_le_size (h e List.mem_cons_self)
    have others := ih fun d hd => h d (List.mem_cons_of_mem e hd)
    rw [size] at first
    rw [wireAll_cons, List.length_append, List.length_cons]
    omega

/-- A buffer begins with well-formed elements, as many as there are, and then comes a rest at which
no element can be decoded. -/
theorem exists_leading (bs : Bytes) : ∃ es rest cause, (∀ e ∈ es, e.WellFormed) ∧
    wireAll es ++ rest = bs ∧ decodeFirst rest = .error cause := by
  -- induction on the length, since an element takes any number of bytes off the front
  induction hn : bs.length using Nat.strongRecOn generalizing bs with
  | ind n ih =>
    subst hn
    cases hd : decodeFirst bs with
    | error cause => exact ⟨[], bs, cause, by simp, rfl, hd⟩
    | ok first =>
      obtain ⟨e, behind⟩ := first
      obtain ⟨es, rest, cause, wellFormed, rfl, stop⟩ :=
        ih behind.length (decodeFirst_rest_lt hd) behind rfl
      refine ⟨e :: es, rest, cause, ?_, ?_, stop⟩
      · intro d hmem
        rcases List.mem_cons.mp hmem with rfl | hmem
        · exact wellFormed_of_decodeFirst hd
        · exact wellFormed d hmem
      · rw [wireAll_cons, List.append_assoc, decodeFirst_wire hd]

theorem split_of_decodeFirst_error {bs : Bytes} {cause : TlvError} (nonempty : bs ≠ [])
    (h : decodeFirst bs = .error cause) : split bs = .error cause := by
  rw [split, if_neg (by simpa using nonempty)]
  split
  · rename_i e he
    rw [h] at he
    cases he
    rfl
  · rename_i e rest he
    rw [h] at he
    cases he

theorem split_wireAll_append {es : List Element} (h : ∀ e ∈ es, e.WellFormed) (rest : Bytes) :
    split (wireAll es ++ rest) = (split rest).map (es ++ ·) := by
  induction es with
  | nil =>
    show split rest = _
    cases split rest <;> rfl
  | cons e es ih =>
    have he : e.WellFormed := h e List.mem_cons_self
    have hes : ∀ d ∈ es, d.WellFormed := fun d hd => h d (List.mem_cons_of_mem e hd)
    rw [wireAll_cons, List.append_assoc, split_of_decodeFirst (decodeFirst_wire_append he _),
      ih hes]
    cases split rest <;> rfl

/-- The buffers that byte strings make, each of which is one element. -/
theorem mapM_decode_eq_ok {ws : List Bytes} {blocks : List Block}
    (h : ws.mapM Block.decode = .ok blocks) :
    (∀ e ∈ blocks.map Block.element, e.WellFormed) ∧
      wireAll (blocks.map Block.element) = ws.flatten := by
  induction ws generalizing blocks with
  | nil =>
    cases h
    exact ⟨by simp, rfl⟩
  | cons w ws ih =>
    rw [List.mapM_cons] at h
    obtain ⟨b, hb, h⟩ := bind_eq_ok.mp h
    obtain ⟨others, hothers, h⟩ := bind_eq_ok.mp h
    cases h
    obtain ⟨wellFormed, wire⟩ := ih hothers
    obtain ⟨first, -, rfl⟩ := Block.decode_eq_ok_iff.mp hb
    refine ⟨?_, ?_⟩
    · intro e he
      rcases List.mem_cons.mp he with rfl | he
      · exact first
      · exact wellFormed e he
    · rw [List.map_cons, wireAll_cons, wire, List.flatten_cons]
      rfl

end Element

/-! ### Framing -/

namespace Dump

open Element (wireAll)

/-- Elements that follow one another from an offset on, each with the offset where it begins. -/
def placed : Nat → List Element → List (Nat × Element)
  | _, [] => []
  | offset, e :: es => (offset, e) :: placed (offset + e.size) es

@[simp] theorem map_snd_placed (offset : Nat) (es : List Element) :
    (placed offset es).map Prod.snd = es := by
  induction es generalizing offset with
  | nil => rfl
  | cons e es ih => rw [placed, List.map_cons, ih]

theorem take_drop_of_mem_placed {offset o : Nat} {es : List Element} {e : Element}
    (h : (o, e) ∈ placed offset es) :
    ((wireAll es).drop (o - offset)).take e.size = e.wire ∧ offset ≤ o := by
  induction es generalizing offset with
  | nil => cases h
  | cons d es ih =>
    rw [Element.wireAll_cons]
    rcases List.mem_cons.mp h with first | later
    · cases first
      rw [Nat.sub_self, List.drop_zero]
      exact ⟨List.take_left' rfl, Nat.le_refl _⟩
    · obtain ⟨found, after⟩ := ih later
      have size : d.wire.length = d.size := rfl
      -- the way to an element behind the first one leads over the first one
      have past : o - offset = d.wire.length + (o - (offset + d.size)) := by omega
      rw [past, ← List.drop_drop, List.drop_left' rfl]
      exact ⟨found, by omega⟩

theorem framesFrom_nil (offset : Nat) : framesFrom offset [] = .ok [] := by
  rw [framesFrom]
  rfl

theorem framesFrom_of_decodeFirst {offset : Nat} {bs rest : Bytes} {e : Element}
    (h : Element.decodeFirst bs = .ok (e, rest)) :
    framesFrom offset bs = (framesFrom (offset + e.size) rest).map ((offset, e) :: ·) := by
  have nonempty : ¬ bs.isEmpty = true := by
    intro empty
    have := Element.decodeFirst_rest_lt h
    rw [List.isEmpty_iff.mp empty] at this
    exact absurd this (Nat.not_lt_zero _)
  rw [framesFrom, if_neg nonempty]
  split
  · rename_i e' he
    rw [h] at he
    cases he
  · rename_i d rest' hd
    rw [h] at hd
    cases hd
    rfl

theorem framesFrom_of_decodeFirst_error {offset : Nat} {bs : Bytes} {cause : TlvError}
    (nonempty : bs ≠ []) (h : Element.decodeFirst bs = .error cause) :
    framesFrom offset bs = .error (.framing offset cause) := by
  rw [framesFrom, if_neg (by simpa using nonempty)]
  split
  · rename_i e he
    rw [h] at he
    cases he
    rfl
  · rename_i e rest he
    rw [h] at he
    cases he

theorem framesFrom_wireAll_append {es : List Element} (h : ∀ e ∈ es, e.WellFormed)
    (offset : Nat) (rest : Bytes) :
    framesFrom offset (wireAll es ++ rest) =
      (framesFrom (offset + (wireAll es).length) rest).map (placed offset es ++ ·) := by
  induction es generalizing offset with
  | nil =>
    show framesFrom offset rest = (framesFrom offset rest).map _
    cases framesFrom offset rest <;> rfl
  | cons e es ih =>
    have he : e.WellFormed := h e List.mem_cons_self
    have hes : ∀ d ∈ es, d.WellFormed := fun d hd => h d (List.mem_cons_of_mem e hd)
    have along : offset + (e.wire ++ wireAll es).length =
        offset + e.size + (wireAll es).length := by
      rw [List.length_append, Element.size, Nat.add_assoc]
    rw [Element.wireAll_cons, along, List.append_assoc,
      framesFrom_of_decodeFirst (Element.decodeFirst_wire_append he _), ih hes]
    cases framesFrom (offset + e.size + (wireAll es).length) rest <;> rfl

theorem frames_wireAll {es : List Element} (h : ∀ e ∈ es, e.WellFormed) :
    frames (wireAll es) = .ok (placed 0 es) := by
  have := framesFrom_wireAll_append h 0 []
  rwa [List.append_nil, framesFrom_nil, map_ok, List.append_nil] at this

/-- Framing fails where the elements at the front of the buffer end, unless that is its end. -/
theorem frames_wireAll_append {es : List Element} (h : ∀ e ∈ es, e.WellFormed) {rest : Bytes}
    {cause : TlvError} (nonempty : rest ≠ []) (stop : Element.decodeFirst rest = .error cause) :
    frames (wireAll es ++ rest) = .error (.framing (wireAll es).length cause) := by
  rw [frames, framesFrom_wireAll_append h, framesFrom_of_decodeFirst_error nonempty stop,
    Nat.zero_add]
  rfl

theorem frames_eq_ok_iff {bs : Bytes} {fs : List (Nat × Element)} :
    frames bs = .ok fs ↔ ∃ es, Element.split bs = .ok es ∧ fs = placed 0 es := by
  constructor
  · intro h
    obtain ⟨es, rest, cause, wellFormed, rfl, stop⟩ := Element.exists_leading bs
    by_cases empty : rest = []
    · subst empty
      rw [List.append_nil] at h ⊢
      rw [frames_wireAll wellFormed] at h
      cases h
      exact ⟨es, Element.split_wireAll wellFormed, rfl⟩
    · rw [frames_wireAll_append wellFormed empty stop] at h
      cases h
  · rintro ⟨es, hes, rfl⟩
    obtain ⟨wellFormed, rfl⟩ := Element.split_eq_ok_iff.mp hes
    exact frames_wireAll wellFormed

/-- Framing fails at the first place where there is no element. -/
theorem frames_eq_error_iff {bs : Bytes} {error : DumpError} :
    frames bs = .error error ↔ ∃ offset cause, error = .framing offset cause ∧
      offset < bs.length ∧ (∃ fs, frames (bs.take offset) = .ok fs) ∧
      Element.decodeFirst (bs.drop offset) = .error cause := by
  constructor
  · intro h
    obtain ⟨es, rest, cause, wellFormed, rfl, stop⟩ := Element.exists_leading bs
    by_cases empty : rest = []
    · subst empty
      rw [List.append_nil, frames_wireAll wellFormed] at h
      cases h
    · rw [frames_wireAll_append wellFormed empty stop] at h
      cases h
      refine ⟨_, cause, rfl, ?_, ⟨placed 0 es, ?_⟩, ?_⟩
      · have := List.length_pos_iff.mpr empty
        rw [List.length_append]
        omega
      · rw [List.take_left' rfl]
        exact frames_wireAll wellFormed
      · rwa [List.drop_left' rfl]
  · rintro ⟨offset, cause, rfl, inside, ⟨fs, hfs⟩, stop⟩
    -- what can be framed before the offset are the elements at the front of the buffer
    obtain ⟨es, hes, -⟩ := frames_eq_ok_iff.mp hfs
    obtain ⟨wellFormed, front⟩ := Element.split_eq_ok_iff.mp hes
    have size : (wireAll es).length = offset := by
      rw [front, List.length_take]
      omega
    have nonempty : bs.drop offset ≠ [] := by
      intro empty
      rw [List.drop_eq_nil_iff] at empty
      omega
    have := frames_wireAll_append wellFormed nonempty stop
    rwa [front, List.take_append_drop, ← front, size] at this

theorem split_eq_error_iff {bs : Bytes} {cause : TlvError} :
    Element.split bs = .error cause ↔ ∃ offset, frames bs = .error (.framing offset cause) := by
  obtain ⟨es, rest, stop, wellFormed, rfl, hstop⟩ := Element.exists_leading bs
  -- the two ways through a buffer meet the same elements and stop at the same rest
  by_cases empty : rest = []
  · subst empty
    rw [List.append_nil, Element.split_wireAll wellFormed, frames_wireAll wellFormed]
    simp
  · rw [Element.split_wireAll_append wellFormed, frames_wireAll_append wellFormed empty hstop,
      Element.split_of_decodeFirst_error empty hstop]
    simp [Except.map]

/-- Byte strings that are one element each, put one after another, are framed as these elements,
each at the offset where it begins.  Whatever else can be framed came about like that: the elements
make up the whole buffer, in order and without gaps, and each takes two bytes or more.  If framing
fails, then at the first offset where no element can be decoded, and what comes before can be
framed.  A block that was not split yet splits into the elements that its value is framed as; if the
value cannot be framed, the error is the same, and the block stays without children. -/
theorem frames_exact :
    (∀ (ws : List Bytes) (blocks : List Block), ws.mapM Block.decode = .ok blocks →
      frames ws.flatten = .ok (placed 0 (blocks.map Block.element))) ∧
    (∀ (bs : Bytes) (fs : List (Nat × Element)), frames bs = .ok fs →
      wireAll (fs.map Prod.snd) = bs ∧ fs = placed 0 (fs.map Prod.snd) ∧
        (∀ f ∈ fs, (bs.drop f.1).take f.2.size = f.2.wire ∧
          Block.decode f.2.wire = .ok (Block.ofElement f.2) ∧ 2 ≤ f.2.size) ∧
        fs.length ≤ bs.length / 2) ∧
    (∀ (bs : Bytes) (error : DumpError), frames bs = .error error ↔
      ∃ offset cause, error = .framing offset cause ∧ offset < bs.length ∧
        (∃ fs, frames (bs.take offset) = .ok fs) ∧
        Block.decodeFirst (bs.drop offset) = .error cause) ∧
    ∀ b : Block, b.isParsed = false → b.children = [] ∧
      (∀ p, b.parse = .ok p ↔ ∃ fs, frames b.value = .ok fs ∧
        p = ⟨b.element, some (fs.map Prod.snd)⟩) ∧
      ∀ cause, b.parse = .error cause ↔
        ∃ offset, frames b.value = .error (.framing offset cause) := by
  refine ⟨?_, ?_, ?_, ?_⟩
  · intro ws blocks h
    obtain ⟨wellFormed, wire⟩ := Element.mapM_decode_eq_ok h
    rw [← wire, frames_wireAll wellFormed]
  · intro bs fs h
    obtain ⟨es, hes, rfl⟩ := frames_eq_ok_iff.mp h
    obtain ⟨wellFormed, rfl⟩ := Element.split_eq_ok_iff.mp hes
    have count := Element.two_mul_length_le wellFormed
    have same : (placed 0 es).length = es.length := by
      rw [← List.length_map Prod.snd, map_snd_placed]
    rw [map_snd_placed, same]
    refine ⟨rfl, rfl, ?_, by omega⟩
    rintro ⟨o, e⟩ hmem
    have he : e ∈ es := by
      rw [← map_snd_placed 0 es]
      exact List.mem_map_of_mem hmem
    exact ⟨(take_drop_of_mem_placed hmem).1,
      Block.decode_eq_ok_iff.mpr ⟨wellFormed e he, rfl, rfl⟩,
      Element.two_le_size (wellFormed e he)⟩
  · intro bs error
    simp only [frames_eq_error_iff, Block.decodeFirst, map_eq_error]
  · rintro ⟨element, children?⟩ unsplit
    cases children? with
    | some es => cases unsplit
    | none =>
      -- nothing is remembered, so the block is split as its value is
      refine ⟨rfl, ?_, ?_⟩
      · intro p
        show (Element.split element.value).map _ = _ ↔ ∃ fs, frames element.value = _ ∧ _
        rw [map_eq_ok]
        constructor
        · rintro ⟨es, hes, rfl⟩
          exact ⟨placed 0 es, frames_eq_ok_iff.mpr ⟨es, hes, rfl⟩, by rw [map_snd_placed]⟩
        · rintro ⟨fs, hfs, rfl⟩
          obtain ⟨es, hes, rfl⟩ := frames_eq_ok_iff.mp hfs
          exact ⟨es, hes, by rw [map_snd_placed]⟩
      · intro cause
        exact map_eq_error.trans split_eq_error_iff

/-- Three elements, the second with a header that is wider than needed.  A buffer whose second
element is cut short is refused at that element's offset, and a block with that value does not
split. -/
theorem frames_exact_three :
    let bs : Bytes := [7, 0, 253, 0, 21, 2, 1, 2, 10, 1, 9]
    let fs : List (Nat × Element) :=
      [(0, ⟨7, [7, 0], []⟩), (2, ⟨21, [253, 0, 21, 2], [1, 2]⟩), (8, ⟨10, [10, 1], [9]⟩)]
    let b := Block.ofElement ⟨200, [200, 5], [7, 0, 21, 5, 1]⟩
    frames bs = .ok fs ∧ wireAll (fs.map Prod.snd) = bs ∧ fs.length ≤ bs.length / 2 ∧
      frames b.value = .error (.framing 2 (.truncated 5 1)) ∧ b.isParsed = false ∧
      b.parse = .error (.truncated 5 1) ∧ b.children = [] := by
  intro bs fs b
  have whole : frames bs = .ok fs :=
    frames_exact.1 [[7, 0], [253, 0, 21, 2, 1, 2], [10, 1, 9]]
      ((fs.map Prod.snd).map Block.ofElement) rfl
  obtain ⟨wire, -, -, count⟩ := frames_exact.2.1 bs fs whole
  have front : frames [7, 0] = .ok [(0, ⟨7, [7, 0], []⟩)] :=
    frames_exact.1 [[7, 0]] [.ofElement ⟨7, [7, 0], []⟩] rfl
  have cut : frames b.value = .error (.framing 2 (.truncated 5 1)) :=
    (frames_exact.2.2.1 _ _).mpr ⟨2, _, rfl, by decide, ⟨_, front⟩, rfl⟩
  obtain ⟨children, -, refused⟩ := frames_exact.2.2.2 b rfl
  exact ⟨whole, wire, count, cut, rfl, (refused _).mpr ⟨2, cut⟩, children⟩

end Dump

end NamedData
