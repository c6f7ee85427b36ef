/-
Hexadecimal text reads as the bytes that it was written from.

Digits that were written are codes of ASCII, and none of them is white space or begins a comment,
so reading a text keeps all of them and drops the line feed at its end.

* `Hex.decode_digitBytes` — digits written for bytes read back;
* `Dump.ofHexText_line` — so does a line of hexadecimal text.
-/
import NamedData.Inspect.Dump
import NamedData.Proofs.Element

namespace NamedData

namespace Hex

/-- The codes of the digits of a byte string. -/
def digitBytes (bs : Bytes) : Bytes :=
  bs.flatMap fun b => [UInt8.ofNat (lowerDigit (b.toNat / 16)).toNat,
    UInt8.ofNat (lowerDigit (b.toNat % 16)).toNat]

theorem utf8_lowerDigit : ∀ d < 16,
    String.utf8EncodeChar (lowerDigit d) = [UInt8.ofNat (lowerDigit d).toNat] := by decide

theorem byteValue_lowerDigit : ∀ d < 16,
    byteValue? (UInt8.ofNat (lowerDigit d).toNat) = some d := by decide

theorem utf8_text (bs : Bytes) : utf8 (text bs) = digitBytes bs := by
  rw [utf8, text, String.toList_ofList, encode, digitBytes, List.flatMap_assoc]
  congr 1
  funext b
  have := b.toNat_lt
  simp [utf8_lowerDigit (b.toNat / 16) (by omega), utf8_lowerDigit (b.toNat % 16) (by omega)]

theorem length_digitBytes (bs : Bytes) : (digitBytes bs).length = 2 * bs.length := by
  induction bs with
  | nil => rfl
  | cons b bs ih =>
    rw [digitBytes] at ih
    simp [digitBytes, ih]
    omega

theorem decodePairs_digitBytes (index : Nat) (bs : Bytes) :
    decodePairs index (digitBytes bs) = .ok bs := by
  induction bs generalizing index with
  | nil => rfl
  | cons b bs ih =>
    have := b.toNat_lt
    have high := byteValue_lowerDigit (b.toNat / 16) (by omega)
    have low := byteValue_lowerDigit (b.toNat % 16) (by omega)
    have others := ih (index + 2)
    rw [digitBytes] at others
    simp only [digitBytes, List.flatMap_cons, List.cons_append, List.nil_append, decodePairs, high,
      low, others, ofNat_digits]
    rfl

/-- Digits written for bytes read back. -/
theorem decode_digitBytes (bs : Bytes) : decode (digitBytes bs) = .ok bs := by
  have even : ¬ (digitBytes bs).length % 2 = 1 := by
    rw [length_digitBytes]
    omega
  rw [decode, if_neg even, decodePairs_digitBytes]

end Hex

namespace Dump

theorem significant_cons {b : UInt8} {rest : Bytes} (mark : b ≠ 35) (blank : isBlank b = false) :
    significant false (b :: rest) = b :: significant false rest := by
  rw [significant, if_neg mark, blank]
  rfl

theorem significant_digitBytes (bs rest : Bytes) :
    significant false (Hex.digitBytes bs ++ rest) =
      Hex.digitBytes bs ++ significant false rest := by
  have digit : ∀ d < 16, UInt8.ofNat (Hex.lowerDigit d).toNat ≠ 35 ∧
      isBlank (UInt8.ofNat (Hex.lowerDigit d).toNat) = false := by decide
  induction bs with
  | nil => rfl
  | cons b bs ih =>
    have := b.toNat_lt
    obtain ⟨highMark, highBlank⟩ := digit (b.toNat / 16) (by omega)
    obtain ⟨lowMark, lowBlank⟩ := digit (b.toNat % 16) (by omega)
    rw [Hex.digitBytes] at ih
    simp only [Hex.digitBytes, List.flatMap_cons, List.cons_append, List.nil_append]
    rw [significant_cons highMark highBlank, significant_cons lowMark lowBlank, ih]

/-- A line of hexadecimal text reads as the bytes that it was written from. -/
theorem ofHexText_line (bs : Bytes) : ofHexText (utf8 (Hex.text bs ++ "\n")) = .ok bs := by
  have line : utf8 (Hex.text bs ++ "\n") = Hex.digitBytes bs ++ [10] := by
    rw [utf8, String.toList_append, List.flatMap_append]
    exact congrArg (· ++ [10]) (Hex.utf8_text bs)
  have feed : significant false [10] = [] := rfl
  rw [ofHexText, line, significant_digitBytes, feed, List.append_nil, Hex.decode_digitBytes]

end Dump

end NamedData
