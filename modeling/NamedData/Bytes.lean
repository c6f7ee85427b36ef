/-
Byte strings, and numbers written as big-endian bytes.

* `length_bigEndian` — a number written to a width takes exactly that many bytes;
* `ofBigEndian_bigEndian` — reading the bytes back gives the number modulo what
  the width can hold, so a number that fits comes back unchanged;
* `ofBigEndian_lt` — a byte string never stands for more than its width holds.
-/

-- powers of numbers are those of `Nat` and `Int` themselves, whatever other powers are in scope
attribute [instance (high), default_instance (high + 1)] instPowNat

namespace NamedData

/-- A byte string, first byte first. -/
abbrev Bytes := List UInt8

/-- The UTF-8 bytes of a text. -/
def utf8 (s : String) : Bytes := s.toList.flatMap String.utf8EncodeChar

/-- The number whose base-256 digits are `bs`, most significant first. -/
def ofBigEndian (bs : Bytes) : Nat :=
  bs.foldl (fun n b => n * 256 + b.toNat) 0

/-- The last `width` base-256 digits of `n`, most significant first. -/
def bigEndian : Nat → Nat → Bytes
  | 0, _ => []
  | width + 1, n => bigEndian width (n / 256) ++ [UInt8.ofNat n]

@[simp] theorem length_bigEndian (width n : Nat) : (bigEndian width n).length = width := by
  induction width generalizing n with
  | zero => rfl
  | succ w ih => simp [bigEndian, ih]

theorem ofBigEndian_append_singleton (bs : Bytes) (b : UInt8) :
    ofBigEndian (bs ++ [b]) = ofBigEndian bs * 256 + b.toNat := by
  simp [ofBigEndian]

theorem ofBigEndian_lt (bs : Bytes) : ofBigEndian bs < 256 ^ bs.length := by
  have grow : ∀ (cs : Bytes) (n k : Nat), n < 256 ^ k →
      cs.foldl (fun n b => n * 256 + b.toNat) n < 256 ^ (k + cs.length) := by
    intro cs
    induction cs with
    | nil => exact fun n k h => h
    | cons c cs ih =>
      intro n k h
      have hc := c.toNat_lt
      have step := ih (n * 256 + c.toNat) (k + 1) (by rw [Nat.pow_succ]; omega)
      rw [List.foldl_cons, List.length_cons, Nat.add_comm cs.length 1, ← Nat.add_assoc]
      exact step
  have := grow bs 0 0 (by simp)
  rwa [Nat.zero_add] at this

theorem ofBigEndian_bigEndian (width n : Nat) :
    ofBigEndian (bigEndian width n) = n % 256 ^ width := by
  induction width generalizing n with
  | zero => simp [bigEndian, ofBigEndian, Nat.mod_one]
  | succ w ih =>
    rw [bigEndian, ofBigEndian_append_singleton, ih, Nat.pow_succ']
    have h : (UInt8.ofNat n).toNat = n % 256 := by simp
    rw [h, Nat.mod_mul, Nat.mul_comm 256, Nat.add_comm]

end NamedData
