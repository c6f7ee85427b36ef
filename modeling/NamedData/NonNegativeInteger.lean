/-
Integer values: one, two, four or eight big-endian bytes, the narrowest that holds the number.

Reading accepts each of the four widths, wider than needed or not, and no other.
-/
import NamedData.Bytes
import NamedData.Error

namespace NamedData.NonNegativeInteger

/-- The narrowest of the widths 1, 2, 4 and 8 that holds `n`. -/
def size (n : UInt64) : Nat :=
  if n ≤ 0xFF then 1
  else if n ≤ 0xFFFF then 2
  else if n ≤ 0xFFFFFFFF then 4
  else 8

/-- The bytes of `n` at its narrowest width. -/
def encode (n : UInt64) : Bytes := bigEndian (size n) n.toNat

/-- The integer that a value stands for. -/
def decode (value : Bytes) : Except TlvError UInt64 :=
  if value.length ∈ [1, 2, 4, 8] then .ok (UInt64.ofNat (ofBigEndian value))
  else .error (.invalidInteger value.length)

@[simp] theorem length_encode (n : UInt64) : (encode n).length = size n := by
  simp [encode]

theorem size_mem (n : UInt64) : size n ∈ [1, 2, 4, 8] := by
  unfold size
  split
  · simp
  · split
    · simp
    · split <;> simp

theorem toNat_lt_size (n : UInt64) : n.toNat < 256 ^ size n := by
  have h1 : (0xFF : UInt64).toNat = 0xFF := rfl
  have h2 : (0xFFFF : UInt64).toNat = 0xFFFF := rfl
  have h4 : (0xFFFFFFFF : UInt64).toNat = 0xFFFFFFFF := rfl
  unfold size
  split
  · rename_i h
    simp only [UInt64.le_iff_toNat_le] at h
    omega
  · split
    · rename_i h
      simp only [UInt64.le_iff_toNat_le] at h
      omega
    · split
      · rename_i h
        simp only [UInt64.le_iff_toNat_le] at h
        omega
      · exact n.toNat_lt

theorem decode_encode (n : UInt64) : decode (encode n) = .ok n := by
  have h : (encode n).length ∈ [1, 2, 4, 8] := by
    rw [length_encode]
    exact size_mem n
  rw [decode, if_pos h, encode, ofBigEndian_bigEndian, Nat.mod_eq_of_lt (toNat_lt_size n)]
  simp

end NamedData.NonNegativeInteger
