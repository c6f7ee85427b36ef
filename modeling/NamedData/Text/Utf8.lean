/-
UTF-8 text read from bytes that may be damaged.

Each sequence of bytes that cannot be continued to a character becomes one replacement character:
as many bytes as could still have begun one, and at least one.

* `decodeLossy` — the characters of a byte string;
* `decodeLossy_utf8` — the bytes of a text give that text.
-/
import NamedData.Bytes

namespace NamedData.Utf8

/-- The character that stands for bytes that are no text. -/
def replacement : Char := '\uFFFD'

/-- The character whose encoding a byte string begins with. -/
def firstChar? (bs : Bytes) : Option Char := (bs.take 4).toByteArray.utf8DecodeChar? 0

/-- What may follow a first byte: how many bytes, and the least and greatest that the next one
may be. -/
def following? (lead : UInt8) : Option (Nat × UInt8 × UInt8) :=
  if 0xC2 ≤ lead ∧ lead ≤ 0xDF then some (1, 0x80, 0xBF)
  else if lead = 0xE0 then some (2, 0xA0, 0xBF)
  else if lead = 0xED then some (2, 0x80, 0x9F)
  else if 0xE1 ≤ lead ∧ lead ≤ 0xEF then some (2, 0x80, 0xBF)
  else if lead = 0xF0 then some (3, 0x90, 0xBF)
  else if 0xF1 ≤ lead ∧ lead ≤ 0xF3 then some (3, 0x80, 0xBF)
  else if lead = 0xF4 then some (3, 0x80, 0x8F)
  else none

/-- How many of the bytes after `lead` could belong to its character. -/
def continuing (lead : UInt8) (rest : Bytes) : Nat :=
  match following? lead, rest with
  | some (count, low, high), next :: more =>
    if low ≤ next ∧ next ≤ high then
      1 + ((more.take (count - 1)).takeWhile fun b => 0x80 ≤ b && b ≤ 0xBF).length
    else 0
  | _, _ => 0

/-- The characters of a byte string, with the replacement character where it is no text. -/
def decodeLossy : Bytes → List Char
  | [] => []
  | b :: rest =>
    match firstChar? (b :: rest) with
    | some c => c :: decodeLossy (rest.drop (c.utf8Size - 1))
    | none => replacement :: decodeLossy (rest.drop (continuing b rest))
termination_by bs => bs.length
decreasing_by all_goals simp only [List.length_cons, List.length_drop]; omega

/-- A byte string as a text. -/
def textLossy (bs : Bytes) : String := String.ofList (decodeLossy bs)

theorem firstChar_encode (c : Char) (rest : Bytes) :
    firstChar? (String.utf8EncodeChar c ++ rest) = some c := by
  have short : (String.utf8EncodeChar c).length ≤ 4 := by
    rw [String.length_utf8EncodeChar]
    exact Char.utf8Size_le_four c
  rw [firstChar?, List.take_append, List.take_of_length_le short, List.toByteArray_append]
  exact ByteArray.utf8DecodeChar?_utf8EncodeChar_append

theorem decodeLossy_encode (c : Char) (rest : Bytes) :
    decodeLossy (String.utf8EncodeChar c ++ rest) = c :: decodeLossy rest := by
  have size : (String.utf8EncodeChar c).length = c.utf8Size := String.length_utf8EncodeChar c
  have first := firstChar_encode c rest
  cases h : String.utf8EncodeChar c with
  | nil =>
    rw [h] at size
    have := c.utf8Size_pos
    simp at size
    omega
  | cons b tail =>
    rw [h] at size first
    simp only [List.cons_append] at first ⊢
    rw [decodeLossy, first]
    have : c.utf8Size - 1 = tail.length := by
      simp at size
      omega
    simp [this]

theorem decodeLossy_utf8 (s : String) : decodeLossy (utf8 s) = s.toList := by
  unfold utf8
  induction s.toList with
  | nil => simp [decodeLossy]
  | cons c cs ih => rw [List.flatMap_cons, decodeLossy_encode, ih]

end NamedData.Utf8
