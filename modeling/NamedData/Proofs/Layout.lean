/-
What encoding a layout gives.

Both kinds of sink follow one law, `LawfulEncoder`: a step tells how many bytes it stands for and
puts exactly these in front of what the sink holds.  From it, by induction over the layout, what
the writer does to either sink is what `Layout.wire` says.

* `estimate_eq` — the estimate is the number of bytes that the layout stands for;
* `contents_buffer` — the buffer ends up holding these bytes and nothing else;
* `encode_group` — a group of elements whose value fits a length encodes to the element that
  `Element.make` describes, split into one child for each field;
* `wellFormed_encode` — whatever comes out of encoding is a well-formed block that was split.
-/
import NamedData.Layout
import NamedData.Proofs.Block

namespace NamedData

/-! ### Sinks -/

/-- A sink of which it can be said what bytes it holds, and whose steps put in front the bytes
that they stand for and tell how many these are. -/
class LawfulEncoder (σ : Type) [Encoder σ] where
  /-- The sink holds these bytes, as far as it keeps any. -/
  Holds : σ → Bytes → Prop
  prependBytes (s : σ) (held bs : Bytes) (h : Holds s held) :
    ((Encoder.prependBytes bs).run s).1 = bs.length ∧
      Holds ((Encoder.prependBytes bs).run s).2 (bs ++ held)
  prependVarNumber (s : σ) (held : Bytes) (n : UInt64) (h : Holds s held) :
    ((Encoder.prependVarNumber n).run s).1 = (VarNumber.encode n).length ∧
      Holds ((Encoder.prependVarNumber n).run s).2 (VarNumber.encode n ++ held)
  prependInteger (s : σ) (held : Bytes) (n : UInt64) (h : Holds s held) :
    ((Encoder.prependInteger n).run s).1 = (NonNegativeInteger.encode n).length ∧
      Holds ((Encoder.prependInteger n).run s).2 (NonNegativeInteger.encode n ++ held)

/-- The estimator counts, and keeps no bytes that it could be wrong about. -/
instance : LawfulEncoder Estimator where
  Holds _ _ := True
  prependBytes _ _ _ _ := ⟨rfl, trivial⟩
  prependVarNumber _ _ n _ := ⟨(VarNumber.length_encode n).symm, trivial⟩
  prependInteger _ _ n _ := ⟨(NonNegativeInteger.length_encode n).symm, trivial⟩

/-- The buffer holds its contents. -/
instance : LawfulEncoder EncodingBuffer where
  Holds b held := b.contents = held
  prependBytes b held bs h := ⟨rfl, by rw [← h]; exact b.contents_prependBytes bs⟩
  prependVarNumber b held n h := ⟨rfl, by rw [← h]; exact b.contents_prependBytes _⟩
  prependInteger b held n h := ⟨rfl, by rw [← h]; exact b.contents_prependBytes _⟩

section

variable {σ : Type} [Encoder σ] [LawfulEncoder σ]

/-- The step puts the bytes in front and gives the number. -/
def Prepends (m : StateM σ Nat) (bs : Bytes) (n : Nat) : Prop :=
  ∀ (s : σ) (held : Bytes), LawfulEncoder.Holds s held →
    (m.run s).1 = n ∧ LawfulEncoder.Holds (m.run s).2 (bs ++ held)

theorem prepends_pure (n : Nat) : Prepends (pure n : StateM σ Nat) [] n :=
  fun _ _ h => ⟨rfl, h⟩

/-- Two steps, the second of which goes in front of the first. -/
theorem Prepends.bind {m : StateM σ Nat} {f : Nat → StateM σ Nat} {front behind : Bytes}
    {n k : Nat} (hm : Prepends m behind n) (hf : Prepends (f n) front k) :
    Prepends (m >>= f) (front ++ behind) k := by
  intro s held h
  obtain ⟨count, holds⟩ := hm s held h
  obtain ⟨count', holds'⟩ := hf _ _ holds
  rw [List.append_assoc]
  change ((f (m.run s).1).run (m.run s).2).1 = k ∧
    LawfulEncoder.Holds ((f (m.run s).1).run (m.run s).2).2 _
  rw [count]
  exact ⟨count', holds'⟩

theorem prepends_header (type : UInt64) (length : Nat) :
    Prepends (Encoder.prependHeader type length : StateM σ Nat) (headerBytes type length)
      ((headerBytes type length).length + length) := by
  refine Prepends.bind (n := (VarNumber.encode (UInt64.ofNat length)).length)
    (fun s held h => LawfulEncoder.prependVarNumber s held _ h) ?_
  intro s held h
  obtain ⟨count, holds⟩ := LawfulEncoder.prependVarNumber s held type h
  refine ⟨?_, holds⟩
  show length + _ + ((Encoder.prependVarNumber type).run s).1 = _
  rw [count, headerBytes, List.length_append]
  omega

/-- An element is its value and then its header in front. -/
theorem Prepends.element {m : StateM σ Nat} {value : Bytes} (type : UInt64)
    (h : Prepends m value value.length) :
    Prepends (m >>= Encoder.prependHeader type) (elementBytes type value)
      (elementBytes type value).length := by
  have := h.bind (prepends_header type value.length)
  rw [elementBytes, List.length_append]
  exact this

theorem Piece.prepends (p : Piece) : Prepends (p.prepend : StateM σ Nat) p.wire p.wire.length := by
  have bytes (bs : Bytes) : Prepends (Encoder.prependBytes bs : StateM σ Nat) bs bs.length :=
    fun s held h => LawfulEncoder.prependBytes s held bs h
  have integer (n : UInt64) : Prepends (Encoder.prependInteger n : StateM σ Nat) _ _ :=
    fun s held h => LawfulEncoder.prependInteger s held n h
  cases p with
  | bytes bs => exact bytes bs
  | varNumber n => exact fun s held h => LawfulEncoder.prependVarNumber s held n h
  | integerValue n => exact integer n
  | integer type n => exact (integer n).element type
  | byteArray type value => exact (bytes value).element type
  | empty type =>
    have := prepends_header (σ := σ) type 0
    rw [Piece.wire, elementBytes, List.append_nil]
    exact this
  | encoded wire => exact bytes wire

namespace Layout

mutual

/-- Writing a layout puts its bytes in front. -/
theorem prepends : ∀ l : Layout, Prepends (l.prepend : StateM σ Nat) l.wire l.wire.length
  | .piece p => by
    rw [prepend, wire]
    exact p.prepends
  | .group type fields => by
    rw [prepend, wire]
    exact (prependsAll fields).element type

/-- Writing consecutive fields puts the bytes of all of them in front. -/
theorem prependsAll : ∀ fs : List Layout,
    Prepends (prependAll fs : StateM σ Nat) (wireAll fs) (wireAll fs).length
  | [] => by
    rw [prependAll, wireAll]
    exact prepends_pure 0
  | f :: fs => by
    rw [prependAll, wireAll]
    refine (prependsAll fs).bind ?_
    have := (prepends f).bind (f := fun n => pure ((wireAll fs).length + n)) (prepends_pure _)
    rw [List.length_append, Nat.add_comm]
    exact this

end

end Layout

end

namespace Layout

/-- The estimate is the number of bytes that the layout stands for. -/
theorem estimate_eq (l : Layout) : l.estimate = l.wire.length :=
  (l.prepends (⟨⟩ : Estimator) [] trivial).1

/-- The buffer ends up holding the bytes that the layout stands for. -/
theorem contents_buffer (l : Layout) : l.buffer.contents = l.wire := by
  have empty : (EncodingBuffer.withCapacity l.estimate).contents = [] := by
    simp [EncodingBuffer.withCapacity, EncodingBuffer.contents]
  have := (l.prepends (EncodingBuffer.withCapacity l.estimate) [] empty).2
  rw [List.append_nil] at this
  exact this

theorem encode?_eq (l : Layout) : l.encode? = (Block.decode l.wire >>= Block.parse) := by
  rw [encode?, EncodingBuffer.toBlock, contents_buffer]

/-! ### Fields that are elements -/

/-- The element that a field encodes to. -/
def element : Layout → Element
  | .piece (.integer type n) => .make type (NonNegativeInteger.encode n)
  | .piece (.byteArray type value) => .make type value
  | .piece (.empty type) => .make type []
  | .piece (.encoded wire) => (Element.decode wire).toOption.getD (.make 0 [])
  | .piece _ => .make 0 []
  | .group type fields => .make type (wireAll fields)

@[simp] theorem element_integer (type n : UInt64) :
    (integer type n).element = .make type (NonNegativeInteger.encode n) := rfl

@[simp] theorem element_byteArray (type : UInt64) (value : Bytes) :
    (byteArray type value).element = .make type value := rfl

@[simp] theorem element_empty (type : UInt64) : (empty type).element = .make type [] := rfl

/-- The field stands for one element: it is no mere run of bytes, and if it is already encoded,
then as one element. -/
def IsField : Layout → Prop
  | .piece (.bytes _) => False
  | .piece (.varNumber _) => False
  | .piece (.integerValue _) => False
  | .piece (.encoded wire) => ∃ e : Element, e.WellFormed ∧ e.wire = wire
  | _ => True

/-- Every one stands for one element. -/
def AreFields (fs : List Layout) : Prop := ∀ f ∈ fs, f.IsField

@[simp] theorem areFields_nil : AreFields [] := fun _ hf => by cases hf

@[simp] theorem areFields_cons {f : Layout} {fs : List Layout} :
    AreFields (f :: fs) ↔ f.IsField ∧ AreFields fs := List.forall_mem_cons

@[simp] theorem areFields_append {fs gs : List Layout} :
    AreFields (fs ++ gs) ↔ AreFields fs ∧ AreFields gs := List.forall_mem_append

@[simp] theorem isField_integer (type n : UInt64) : (integer type n).IsField := trivial

@[simp] theorem isField_byteArray (type : UInt64) (value : Bytes) :
    (byteArray type value).IsField := trivial

@[simp] theorem isField_empty (type : UInt64) : (empty type).IsField := trivial

@[simp] theorem areFields_integer? (type : UInt64) (n : Option UInt64) :
    AreFields (integer? type n) := by
  cases n <;> simp [integer?]

@[simp] theorem areFields_flag (type : UInt64) (on : Bool) : AreFields (flag type on) := by
  cases on <;> simp [flag]

@[simp] theorem areFields_integerUnless (type default n : UInt64) :
    AreFields (integerUnless type default n) := by
  rw [integerUnless]
  split <;> simp

theorem element_encoded {e : Element} (h : e.WellFormed) : (encoded e.wire).element = e := by
  have := Element.decode_eq_ok_iff.mpr ⟨h, rfl⟩
  rw [encoded, element, this]
  rfl

theorem length_lt_of_elementBytes {type : UInt64} {value : Bytes}
    (h : (elementBytes type value).length < 2 ^ 64) : value.length < 2 ^ 64 := by
  rw [Element.length_elementBytes] at h
  omega

/-- A field that is not too long is a well-formed element. -/
theorem wellFormed_element {l : Layout} (field : l.IsField) (h : l.wire.length < 2 ^ 64) :
    l.element.WellFormed ∧ l.element.wire = l.wire := by
  cases l with
  | group type fields =>
    rw [wire] at h
    exact ⟨Element.wellFormed_make (length_lt_of_elementBytes h), by rw [wire]; rfl⟩
  | piece p =>
    rw [wire] at h ⊢
    cases p with
    | bytes bs => cases field
    | varNumber n => cases field
    | integerValue n => cases field
    | integer type n => exact ⟨Element.wellFormed_make (length_lt_of_elementBytes h), rfl⟩
    | byteArray type value => exact ⟨Element.wellFormed_make (length_lt_of_elementBytes h), rfl⟩
    | empty type => exact ⟨Element.wellFormed_make (length_lt_of_elementBytes h), rfl⟩
    | encoded bs =>
      obtain ⟨e, he, rfl⟩ := field
      have := element_encoded he
      rw [encoded] at this
      rw [this]
      exact ⟨he, rfl⟩

theorem wellFormed_elements {fs : List Layout} (fields : AreFields fs)
    (h : (wireAll fs).length < 2 ^ 64) :
    (∀ e ∈ fs.map element, e.WellFormed) ∧ Element.wireAll (fs.map element) = wireAll fs := by
  -- each field is shorter than all of them together, so each has a length that fits
  induction fs with
  | nil => exact ⟨by simp, by rw [wireAll]; rfl⟩
  | cons f fs ih =>
    rw [wireAll, List.length_append] at h
    obtain ⟨wellFormed, wire⟩ := wellFormed_element (fields f List.mem_cons_self) (by omega)
    obtain ⟨wellFormed', wire'⟩ :=
      ih (fun g hg => fields g (List.mem_cons_of_mem f hg)) (by omega)
    refine ⟨?_, ?_⟩
    · intro e he
      rcases List.mem_cons.mp he with rfl | he
      · exact wellFormed
      · exact wellFormed' e he
    · rw [List.map_cons, Element.wireAll_cons, wire, wire', wireAll]

/-- A field is no longer than all the fields together. -/
theorem length_wire_le {f : Layout} {fs : List Layout} (h : f ∈ fs) :
    f.wire.length ≤ (wireAll fs).length := by
  obtain ⟨front, behind, rfl⟩ := List.append_of_mem h
  rw [wireAll_append, wireAll, List.length_append, List.length_append]
  omega

/-- The bytes of consecutive fields split into the elements of the fields. -/
theorem split_wireAll {fs : List Layout} (fields : AreFields fs)
    (h : (wireAll fs).length < 2 ^ 64) :
    Element.split (wireAll fs) = .ok (fs.map element) :=
  Element.split_eq_ok_iff.mpr (wellFormed_elements fields h)

/-- The element of a group splits into the elements of its fields. -/
theorem parse_element_group {type : UInt64} {fs : List Layout} (fields : AreFields fs)
    (h : (group type fs).wire.length < 2 ^ 64) :
    (Block.ofElement (group type fs).element).parse =
      .ok ⟨(group type fs).element, some (fs.map element)⟩ := by
  have wellFormed := (wellFormed_element (l := group type fs) trivial h).1
  rw [wire] at h
  rw [Block.parse_eq_ok_iff (Block.wellFormed_ofElement wellFormed)]
  exact ⟨_, split_wireAll fields (length_lt_of_elementBytes h), rfl⟩

/-! ### Encoding -/

/-- A group of fields whose value fits a length encodes to an element with the narrowest header,
split into the elements of the fields. -/
theorem encode_group {type : UInt64} {fs : List Layout} (fields : AreFields fs)
    (h : (wireAll fs).length < 2 ^ 64) :
    (group type fs).encode? = .ok ⟨.make type (wireAll fs), some (fs.map element)⟩ := by
  have wellFormed : (Element.make type (wireAll fs)).WellFormed := Element.wellFormed_make h
  have whole : Block.decode (wire (.group type fs)) =
      .ok (Block.ofElement (.make type (wireAll fs))) := by
    rw [wire]
    exact Block.decode_eq_ok_iff.mpr ⟨wellFormed, rfl, rfl⟩
  rw [encode?_eq, whole, ok_bind,
    Block.parse_eq_ok_iff (Block.wellFormed_ofElement wellFormed)]
  exact ⟨_, split_wireAll fields h, rfl⟩

/-- Only a group whose value fits a length encodes. -/
theorem length_lt_of_encode_group {type : UInt64} {fs : List Layout} {b : Block}
    (h : (group type fs).encode? = .ok b) : (wireAll fs).length < 2 ^ 64 := by
  rw [encode?_eq, wire] at h
  obtain ⟨q, hq, -⟩ := bind_eq_ok.mp h
  obtain ⟨e, he, -⟩ := map_eq_ok.mp hq
  exact Element.length_lt_of_decode he

theorem encode_of_encode? {l : Layout} {b : Block} (h : l.encode? = .ok b) : l.encode = b := by
  rw [encode, h]

/-- Whatever comes out of encoding is a well-formed block that was split. -/
theorem wellFormed_encode (l : Layout) : l.encode.WellFormed ∧ l.encode.isParsed = true := by
  rw [encode, encode?_eq]
  split
  · rename_i b hb
    obtain ⟨c, hc, hp⟩ := bind_eq_ok.mp hb
    have hc := Block.wellFormed_of_decode hc
    refine ⟨Block.wellFormed_of_parse hc hp, ?_⟩
    obtain ⟨es, -, rfl⟩ := (Block.parse_eq_ok_iff hc).mp hp
    rfl
  · exact ⟨Block.wellFormed_empty, rfl⟩

end Layout

end NamedData
