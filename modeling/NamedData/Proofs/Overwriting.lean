/-
Bytes that are written over, in a buffer and in the elements that it is made of.

The buffer keeps its length.  Elements are found by the lengths in their headers, so as long as the
bytes lie inside the value of one of them, every element stays where it was and only that value is
not the same (`split_overwriteAt`).

* `overwriteAt` — a buffer with some of its bytes written over, and how that goes through a buffer
  that is put together of two;
* `Element.overwriteValue` — an element with some of the bytes of its value written over.
-/
import NamedData.Proofs.Element

namespace NamedData

/-! ### Buffers -/

/-- The buffer with as many bytes as there are new ones written over, from a position on. -/
def overwriteAt (buffer : Bytes) (position : Nat) (bs : Bytes) : Bytes :=
  buffer.take position ++ bs ++ buffer.drop (position + bs.length)

section

variable {buffer front behind bs : Bytes} {position : Nat}

theorem length_overwriteAt (inside : position + bs.length ≤ buffer.length) :
    (overwriteAt buffer position bs).length = buffer.length := by
  rw [overwriteAt, List.length_append, List.length_append, List.length_take, List.length_drop]
  omega

theorem overwriteAt_append_of_le (h : front.length ≤ position) :
    overwriteAt (front ++ behind) position bs =
      front ++ overwriteAt behind (position - front.length) bs := by
  have start : position = front.length + (position - front.length) := by omega
  rw [overwriteAt, overwriteAt, start, List.take_length_add_append, Nat.add_assoc,
    List.drop_length_add_append, Nat.add_sub_cancel_left]
  simp only [List.append_assoc]

theorem overwriteAt_append_of_within (h : position + bs.length ≤ front.length) :
    overwriteAt (front ++ behind) position bs = overwriteAt front position bs ++ behind := by
  rw [overwriteAt, overwriteAt, List.take_append_of_le_length (by omega),
    List.drop_append_of_le_length h]
  simp only [List.append_assoc]

end

/-! ### Elements -/

namespace Element

variable {front behind : List Element} {e : Element} {bs : Bytes} {position : Nat}

/-- A well-formed element whose value is replaced by one of the same length. -/
theorem wellFormed_withValue (he : e.WellFormed) (size : bs.length = e.value.length) :
    WellFormed { e with value := bs } := by
  obtain ⟨length, header, value⟩ := he
  exact ⟨length, header, size.trans value⟩

/-- The element with bytes of its value written over. -/
def overwriteValue (e : Element) (position : Nat) (bs : Bytes) : Element :=
  { e with value := overwriteAt e.value position bs }

theorem size_overwriteValue (inside : position + bs.length ≤ e.value.length) :
    (e.overwriteValue position bs).size = e.size := by
  show (e.header ++ overwriteAt e.value position bs).length = (e.header ++ e.value).length
  rw [List.length_append, List.length_append, length_overwriteAt inside]

/-- Writing over all of the value replaces it. -/
theorem overwriteValue_zero (size : bs.length = e.value.length) :
    e.overwriteValue 0 bs = { e with value := bs } := by
  rw [overwriteValue, overwriteAt, Nat.zero_add, size, List.drop_length, List.append_nil]
  rfl

/-- Bytes that lie inside the value of one of the elements are written over there, and nothing else
is. -/
theorem overwriteAt_wireAll
    (start : (wireAll front).length + e.valueOffset ≤ position)
    (stop : position + bs.length ≤ (wireAll front).length + e.valueOffset + e.value.length) :
    overwriteAt (wireAll (front ++ e :: behind)) position bs =
      wireAll (front ++
        e.overwriteValue (position - ((wireAll front).length + e.valueOffset)) bs :: behind) := by
  have header : e.valueOffset = e.header.length := rfl
  have past : position - (wireAll front).length - e.header.length =
      position - ((wireAll front).length + e.valueOffset) := by omega
  simp only [wireAll_append, wireAll_cons, wire, List.append_assoc]
  rw [overwriteAt_append_of_le (by omega), overwriteAt_append_of_le (by omega),
    overwriteAt_append_of_within (by omega), past]
  rfl

/-- Such bytes leave everything an element that was one. -/
theorem split_overwriteAt {value : Bytes} (h : split value = .ok (front ++ e :: behind))
    (start : (wireAll front).length + e.valueOffset ≤ position)
    (stop : position + bs.length ≤ (wireAll front).length + e.valueOffset + e.value.length) :
    split (overwriteAt value position bs) = .ok (front ++
      e.overwriteValue (position - ((wireAll front).length + e.valueOffset)) bs :: behind) := by
  obtain ⟨wellFormed, rfl⟩ := split_eq_ok_iff.mp h
  refine split_eq_ok_iff.mpr ⟨?_, (overwriteAt_wireAll start stop).symm⟩
  intro d hd
  rcases List.mem_append.mp hd with hd | hd
  · exact wellFormed d (List.mem_append_left _ hd)
  · rcases List.mem_cons.mp hd with rfl | hd
    · exact wellFormed_withValue (wellFormed e (by simp)) (length_overwriteAt (by omega))
    · exact wellFormed d (by simp [hd])

end Element

end NamedData
