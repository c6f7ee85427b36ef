/-
Encoders: sinks that take bytes in front of the ones they already hold.

An encoding is built back to front, the last field first and the header last, when the length of
the value is known. The same steps run on two kinds of sink: the `Estimator` only counts, and the
`EncodingBuffer` keeps the bytes in a store that is filled from its end and grows when it is full.

* `Encoder` — what a sink offers; each step tells how many bytes it added;
* `Piece` — the elementary steps as data, with the bytes that each stands for in `Piece.bytes`;
* `contents_prependBytes` — the buffer holds the new bytes and then what it held before, whether
  or not it had to grow.
-/
import NamedData.Block

namespace NamedData

/-- A sink for bytes that are put in front. Each operation gives the number of bytes it added. -/
class Encoder (σ : Type) where
  /-- Puts bytes in front. -/
  prependBytes (bs : Bytes) : StateM σ Nat
  /-- Puts a variable-width number in front. -/
  prependVarNumber (n : UInt64) : StateM σ Nat := prependBytes (VarNumber.encode n)
  /-- Puts the value of an integer in front. -/
  prependInteger (n : UInt64) : StateM σ Nat := prependBytes (NonNegativeInteger.encode n)

namespace Encoder

variable {σ : Type} [Encoder σ]

/-- Puts the header of an element in front of its value of `length` bytes; gives the size of the
whole element. -/
def prependHeader (type : UInt64) (length : Nat) : StateM σ Nat := do
  let lengthSize ← prependVarNumber (UInt64.ofNat length)
  let typeSize ← prependVarNumber type
  return length + lengthSize + typeSize

end Encoder

/-- An elementary step of encoding. -/
inductive Piece where
  /-- Bytes as they are. -/
  | bytes (bs : Bytes)
  /-- A variable-width number. -/
  | varNumber (n : UInt64)
  /-- The value of an integer, without a header. -/
  | integerValue (n : UInt64)
  /-- An element whose value is an integer. -/
  | integer (type n : UInt64)
  /-- An element whose value is a byte string. -/
  | byteArray (type : UInt64) (value : Bytes)
  /-- An element without a value. -/
  | empty (type : UInt64)
  /-- An element that is already encoded. -/
  | encoded (wire : Bytes)
deriving DecidableEq, Repr

/-- The header of an element whose value has `length` bytes, each number in its narrowest form. -/
def headerBytes (type : UInt64) (length : Nat) : Bytes :=
  VarNumber.encode type ++ VarNumber.encode (UInt64.ofNat length)

/-- An element with a given value and the narrowest header. -/
def elementBytes (type : UInt64) (value : Bytes) : Bytes :=
  headerBytes type value.length ++ value

/-- The bytes that a step stands for. -/
def Piece.wire : Piece → Bytes
  | .bytes bs => bs
  | .varNumber n => VarNumber.encode n
  | .integerValue n => NonNegativeInteger.encode n
  | .integer type n => elementBytes type (NonNegativeInteger.encode n)
  | .byteArray type value => elementBytes type value
  | .empty type => elementBytes type []
  | .encoded wire => wire

/-- Puts the bytes of a step in front of what the sink holds. -/
def Piece.prepend {σ : Type} [Encoder σ] : Piece → StateM σ Nat
  | .bytes bs => Encoder.prependBytes bs
  | .varNumber n => Encoder.prependVarNumber n
  | .integerValue n => Encoder.prependInteger n
  | .integer type n => do
    let length ← Encoder.prependInteger n
    Encoder.prependHeader type length
  | .byteArray type value => do
    let length ← Encoder.prependBytes value
    Encoder.prependHeader type length
  | .empty type => Encoder.prependHeader type 0
  | .encoded wire => Encoder.prependBytes wire

/-- The sink that counts bytes and keeps none. -/
structure Estimator where

instance : Encoder Estimator where
  prependBytes bs := pure bs.length
  prependVarNumber n := pure (VarNumber.size n)
  prependInteger n := pure (NonNegativeInteger.size n)

/-- The sink that keeps the bytes. What it holds is the end of its store, from `start` on; the
bytes before are free room. -/
structure EncodingBuffer where
  /-- The free room and then the contents. -/
  store : Bytes
  /-- Where the contents begin. -/
  start : Nat
  /-- The contents begin inside the store or at its end. -/
  start_le : start ≤ store.length := by simp
deriving Repr

namespace EncodingBuffer

/-- An empty buffer with room for `capacity` bytes. -/
def withCapacity (capacity : Nat) : EncodingBuffer where
  store := List.replicate capacity 0
  start := capacity

/-- The bytes put in so far. -/
def contents (b : EncodingBuffer) : Bytes := b.store.drop b.start

/-- The number of bytes put in so far. -/
def length (b : EncodingBuffer) : Nat := b.store.length - b.start

/-- Whether nothing was put in so far. -/
def isEmpty (b : EncodingBuffer) : Bool := b.length = 0

/-- The buffer with more room in front: enough for `needed` bytes, and at least as much again as
the whole store. -/
def grow (b : EncodingBuffer) (needed : Nat) : EncodingBuffer :=
  let extra := max (needed - b.start) b.store.length
  { store := List.replicate extra 0 ++ b.store
    start := b.start + extra
    start_le := by
      have := b.start_le
      simp
      omega }

/-- The buffer with room for `needed` more bytes. -/
def reserve (b : EncodingBuffer) (needed : Nat) : EncodingBuffer :=
  if b.start < needed then b.grow needed else b

/-- The buffer with `bs` copied in front of its contents. -/
def prepend (b : EncodingBuffer) (bs : Bytes) : EncodingBuffer :=
  let roomy := b.reserve bs.length
  { store := roomy.store.take (roomy.start - bs.length) ++ bs ++ roomy.store.drop roomy.start
    start := roomy.start - bs.length
    start_le := by
      have := roomy.start_le
      simp
      omega }

theorem contents_reserve (b : EncodingBuffer) (needed : Nat) :
    (b.reserve needed).contents = b.contents := by
  unfold reserve
  split
  · simp only [grow, contents]
    rw [List.drop_append, List.drop_eq_nil_of_le (by simp)]
    simp
  · rfl

/-- Putting bytes in front: the buffer holds them and then what it held before. -/
theorem contents_prependBytes (b : EncodingBuffer) (bs : Bytes) :
    (b.prepend bs).contents = bs ++ b.contents := by
  have h := (b.reserve bs.length).start_le
  have k : ((b.reserve bs.length).store.take ((b.reserve bs.length).start - bs.length)).length =
      (b.reserve bs.length).start - bs.length := by
    rw [List.length_take]
    omega
  rw [← contents_reserve b bs.length]
  simp only [prepend, contents]
  rw [List.append_assoc, List.drop_append, List.drop_eq_nil_of_le (by omega), k]
  simp

theorem length_eq (b : EncodingBuffer) : b.length = b.contents.length := by
  simp [length, contents]

/-- The contents as one block, when they are exactly one element. -/
def toBlock (b : EncodingBuffer) : Except TlvError Block := Block.decode b.contents

end EncodingBuffer

instance : Encoder EncodingBuffer where
  prependBytes bs := fun b => (bs.length, b.prepend bs)

end NamedData
