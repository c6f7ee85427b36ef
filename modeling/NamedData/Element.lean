/-
Elements: a type number, a length and that many bytes of value.

An element keeps its header as it was received, since the same type and length can be written in
wider forms than needed. `decodeFirst` takes one element off the front of a buffer, `decode` takes
a buffer that is exactly one element, and `split` cuts a buffer into elements.

* `decodeFirst_rest_lt` — an element takes at least one byte off the buffer, so `split` ends;
* `decodeFirst_wire` — nothing is lost: the element's bytes and the rest are the buffer.
-/
import NamedData.VarNumber

namespace NamedData

/-- One element as received: its type number, its header bytes and its value. -/
structure Element where
  /-- The type number. -/
  type : UInt64
  /-- The bytes of the type number and of the length. -/
  header : Bytes
  /-- The bytes of the value. -/
  value : Bytes
deriving DecidableEq, Repr

namespace Element

/-- The whole encoding, header included. -/
def wire (e : Element) : Bytes := e.header ++ e.value

/-- The number of bytes in the whole encoding. -/
def size (e : Element) : Nat := e.wire.length

/-- Where the value begins inside the encoding. -/
def valueOffset (e : Element) : Nat := e.header.length

/-- Reads a header from the front of a buffer: type number, length of the value, and the number
of bytes in the header itself. -/
def readHeader (bs : Bytes) : Except TlvError (UInt64 × UInt64 × Nat) := do
  let (type, n) ← VarNumber.read bs
  let (length, m) ← VarNumber.read (bs.drop n)
  return (type, length, n + m)

/-- Takes one element off the front of a buffer: the element and the bytes after it. -/
def decodeFirst (bs : Bytes) : Except TlvError (Element × Bytes) := do
  let (type, length, offset) ← readHeader bs
  let body := bs.drop offset
  if body.length < length.toNat then
    throw (.truncated length.toNat body.length)
  else
    return (⟨type, bs.take offset, body.take length.toNat⟩, body.drop length.toNat)

/-- The element that a buffer is, when it is exactly one. -/
def decode (bs : Bytes) : Except TlvError Element := do
  let (e, rest) ← decodeFirst bs
  if rest.isEmpty then return e else throw (.trailingBytes rest.length)

theorem readHeader_bounds {bs : Bytes} {type length : UInt64} {offset : Nat}
    (h : readHeader bs = .ok (type, length, offset)) : 0 < offset ∧ offset ≤ bs.length := by
  unfold readHeader at h
  cases h1 : VarNumber.read bs with
  | error e => simp [h1, bind, Except.bind] at h
  | ok first =>
    obtain ⟨t, n⟩ := first
    cases h2 : VarNumber.read (bs.drop n) with
    | error e => simp [h1, h2, bind, Except.bind] at h
    | ok second =>
      obtain ⟨l, m⟩ := second
      simp only [h1, h2, bind, Except.bind, pure, Except.pure] at h
      cases h
      have b1 := VarNumber.read_bounds h1
      have b2 := VarNumber.read_bounds h2
      rw [List.length_drop] at b2
      omega

/-- What it means for an element to come off the front of a buffer. -/
theorem decodeFirst_eq_ok {bs rest : Bytes} {e : Element} (h : decodeFirst bs = .ok (e, rest)) :
    ∃ length offset, readHeader bs = .ok (e.type, length, offset) ∧
      length.toNat ≤ (bs.drop offset).length ∧ e.header = bs.take offset ∧
      e.value = (bs.drop offset).take length.toNat ∧
      rest = (bs.drop offset).drop length.toNat := by
  unfold decodeFirst at h
  cases h1 : readHeader bs with
  | error e => simp [h1, bind, Except.bind] at h
  | ok first =>
    obtain ⟨type, length, offset⟩ := first
    simp only [h1, bind, Except.bind] at h
    split at h
    · cases h
    · rename_i enough
      cases h
      exact ⟨length, offset, rfl, by omega, rfl, rfl, rfl⟩

theorem decodeFirst_rest_lt {bs rest : Bytes} {e : Element} (h : decodeFirst bs = .ok (e, rest)) :
    rest.length < bs.length := by
  obtain ⟨length, offset, hh, -, -, -, hr⟩ := decodeFirst_eq_ok h
  have := readHeader_bounds hh
  subst hr
  simp only [List.length_drop]
  omega

theorem decodeFirst_wire {bs rest : Bytes} {e : Element} (h : decodeFirst bs = .ok (e, rest)) :
    e.wire ++ rest = bs := by
  obtain ⟨length, offset, -, -, hh, hv, hr⟩ := decodeFirst_eq_ok h
  rw [wire, hh, hv, hr, List.append_assoc, List.take_append_drop, List.take_append_drop]

/-- Cuts a buffer into the elements that it is made of, in order. -/
def split (bs : Bytes) : Except TlvError (List Element) :=
  if bs.isEmpty then .ok []
  else
    match _h : decodeFirst bs with
    | .error e => .error e
    | .ok (e, rest) => (split rest).map (e :: ·)
termination_by bs.length
decreasing_by exact decodeFirst_rest_lt _h

end Element

end NamedData
