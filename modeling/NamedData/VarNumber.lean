/-
Variable-width numbers, the form in which type numbers and lengths are written.

A number below 253 is its own byte. Larger ones are a marker byte 253, 254 or 255 followed by
two, four or eight big-endian bytes. Writing uses the narrowest form; reading takes every form.

* `length_encode` — `size` is the number of bytes that `encode` writes;
* `read_encode` — reading what was written, whatever follows, gives the number back;
* `read_bounds` — what is read takes at least one byte and no more than there are.
-/
import NamedData.Bytes
import NamedData.Error

namespace NamedData.VarNumber

/-- The number of bytes in the narrowest form of `n`. -/
def size (n : UInt64) : Nat :=
  if n < 253 then 1
  else if n ≤ 0xFFFF then 3
  else if n ≤ 0xFFFFFFFF then 5
  else 9

/-- The narrowest form of `n`. -/
def encode (n : UInt64) : Bytes :=
  if n < 253 then [n.toUInt8]
  else if n ≤ 0xFFFF then 253 :: bigEndian 2 n.toNat
  else if n ≤ 0xFFFFFFFF then 254 :: bigEndian 4 n.toNat
  else 255 :: bigEndian 8 n.toNat

/-- How many bytes follow a given first byte. -/
def tailWidth (first : UInt8) : Nat :=
  if first < 253 then 0
  else if first = 253 then 2
  else if first = 254 then 4
  else 8

/-- Reads a number from the front of `bs`: its value and how many bytes it takes. -/
def read : Bytes → Except TlvError (UInt64 × Nat)
  | [] => .error (.truncated 1 0)
  | first :: rest =>
    let width := tailWidth first
    if width = 0 then .ok (first.toUInt64, 1)
    else if rest.length < width then .error (.truncated width rest.length)
    else .ok (UInt64.ofNat (ofBigEndian (rest.take width)), 1 + width)

/-- Reads a number at a position of a buffer: its value and the position after it. A position
at or past the end reads like an empty buffer. -/
def readAt (buffer : Bytes) (position : Nat) : Except TlvError (UInt64 × Nat) :=
  (read (buffer.drop position)).map fun (n, width) => (n, position + width)

theorem length_encode (n : UInt64) : (encode n).length = size n := by
  unfold encode size
  split
  · rfl
  · split
    · simp
    · split <;> simp

theorem read_marked {first : UInt8} {width : Nat} {n : UInt64} (rest : Bytes)
    (hw : tailWidth first = width) (h0 : width ≠ 0) (hn : n.toNat < 256 ^ width) :
    read (first :: (bigEndian width n.toNat ++ rest)) = .ok (n, 1 + width) := by
  have enough : ¬ (bigEndian width n.toNat ++ rest).length < width := by simp
  simp only [read, hw, h0, enough, if_false]
  rw [List.take_left' (length_bigEndian width _), ofBigEndian_bigEndian, Nat.mod_eq_of_lt hn]
  simp

theorem read_encode (n : UInt64) (rest : Bytes) : read (encode n ++ rest) = .ok (n, size n) := by
  have h1 : (253 : UInt64).toNat = 253 := rfl
  have h2 : (0xFFFF : UInt64).toNat = 0xFFFF := rfl
  have h4 : (0xFFFFFFFF : UInt64).toNat = 0xFFFFFFFF := rfl
  unfold encode size
  split
  · rename_i h
    rw [UInt64.lt_iff_toNat_lt] at h
    have small : n.toUInt8 < 253 := by
      rw [UInt8.lt_iff_toNat_lt, UInt64.toNat_toUInt8]
      have : (253 : UInt8).toNat = 253 := rfl
      omega
    have same : n.toUInt8.toUInt64 = n := by
      apply UInt64.toNat_inj.mp
      simp
      omega
    simp [read, tailWidth, small, same]
  · split
    · rename_i h
      rw [UInt64.le_iff_toNat_le] at h
      exact read_marked rest rfl (by omega) (by omega)
    · split
      · rename_i h
        rw [UInt64.le_iff_toNat_le] at h
        exact read_marked rest rfl (by omega) (by omega)
      · exact read_marked rest rfl (by omega) n.toNat_lt

theorem read_bounds {bs : Bytes} {n : UInt64} {width : Nat} (h : read bs = .ok (n, width)) :
    0 < width ∧ width ≤ bs.length := by
  cases bs with
  | nil => simp [read] at h
  | cons first rest =>
    simp only [read] at h
    split at h
    · cases h
      simp
    · split at h
      · cases h
      · cases h
        simp
        omega

end NamedData.VarNumber
