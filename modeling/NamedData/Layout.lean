/-
Layouts: what an element is made of, before it is turned into bytes.

A layout is a tree with the fields in their declared order. `Layout.wire` says what bytes it
stands for, reading it front to back. `Layout.prepend` writes it back to front into any encoder,
and `Layout.encode?` does so twice, first to learn the size and then into a buffer of that size.

* `wireAll_append` — the bytes of consecutive fields are the bytes of each in turn;
* `encode` — the encoded block, or the empty block of type zero when the bytes cannot be read back.
-/
import NamedData.Encoder

namespace NamedData

/-- What an element, or a run of bytes inside one, is made of. -/
inductive Layout where
  /-- An elementary step. -/
  | piece (p : Piece)
  /-- An element whose value consists of fields, in this order. -/
  | group (type : UInt64) (fields : List Layout)
deriving Repr

namespace Layout

/-- An element whose value is an integer. -/
def integer (type n : UInt64) : Layout := .piece (.integer type n)

/-- An element whose value is a byte string. -/
def byteArray (type : UInt64) (value : Bytes) : Layout := .piece (.byteArray type value)

/-- An element without a value. -/
def empty (type : UInt64) : Layout := .piece (.empty type)

/-- An element that is already encoded. -/
def encoded (wire : Bytes) : Layout := .piece (.encoded wire)

/-- The field of an option: an integer element when it is set, nothing otherwise. -/
def integer? (type : UInt64) : Option UInt64 → List Layout
  | some n => [integer type n]
  | none => []

/-- The field of a flag: an element without a value when it is set, nothing otherwise. -/
def flag (type : UInt64) (on : Bool) : List Layout :=
  if on then [empty type] else []

/-- The field of a number with a default, which is left out. -/
def integerUnless (type default n : UInt64) : List Layout :=
  if n = default then [] else [integer type n]

mutual

/-- The bytes that a layout stands for. -/
def wire : Layout → Bytes
  | .piece p => p.wire
  | .group type fields => elementBytes type (wireAll fields)

/-- The bytes of consecutive fields. -/
def wireAll : List Layout → Bytes
  | [] => []
  | f :: fs => wire f ++ wireAll fs

end

mutual

/-- Writes a layout in front of what an encoder holds; gives the number of bytes added. -/
def prepend {σ : Type} [Encoder σ] : Layout → StateM σ Nat
  | .piece p => p.prepend
  | .group type fields => do
    let length ← prependAll fields
    Encoder.prependHeader type length

/-- Writes consecutive fields, the last one first. -/
def prependAll {σ : Type} [Encoder σ] : List Layout → StateM σ Nat
  | [] => pure 0
  | f :: fs => do
    let behind ← prependAll fs
    let length ← prepend f
    return behind + length

end

/-- The number of bytes that writing the layout adds. -/
def estimate (l : Layout) : Nat := (l.prepend.run (⟨⟩ : Estimator)).1

/-- The buffer after writing the layout into room of exactly the estimated size. -/
def buffer (l : Layout) : EncodingBuffer :=
  (l.prepend.run (EncodingBuffer.withCapacity l.estimate)).2

/-- The encoded block, split into its children, when the bytes can be read back. -/
def encode? (l : Layout) : Except TlvError Block := do
  let block ← l.buffer.toBlock
  block.parse

/-- The encoded block; the empty block of type zero when the bytes cannot be read back, which
every decoder refuses as an unexpected type. -/
def encode (l : Layout) : Block :=
  match l.encode? with
  | .ok block => block
  | .error _ => Block.empty

@[simp] theorem wireAll_append (fs gs : List Layout) :
    wireAll (fs ++ gs) = wireAll fs ++ wireAll gs := by
  induction fs with
  | nil => rfl
  | cons f fs ih => simp [wireAll, ih]

end Layout

end NamedData
