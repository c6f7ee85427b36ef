/-
Percent escapes: bytes written in a URI.

Letters, digits and the four marks `-`, `.`, `_` and `~` stand for themselves; every other byte
is a percent sign and two uppercase hexadecimal digits. Reading takes digits of either case and
lets any character but the percent sign stand for its UTF-8 bytes.

* `decode_encode` — what was written reads back.
-/
import NamedData.Text.Hex

namespace NamedData.Percent

/-- Whether a byte is written as it is. -/
def isUnreserved (b : UInt8) : Bool :=
  (48 ≤ b && b ≤ 57) || (65 ≤ b && b ≤ 90) || (97 ≤ b && b ≤ 122) ||
    b == 45 || b == 46 || b == 95 || b == 126

/-- A byte as it stands in a URI. -/
def encodeByte (b : UInt8) : List Char :=
  if isUnreserved b then [Char.ofNat b.toNat]
  else ['%', Hex.upperDigit (b.toNat / 16), Hex.upperDigit (b.toNat % 16)]

/-- A byte string as it stands in a URI. -/
def encode (bs : Bytes) : List Char := bs.flatMap encodeByte

/-- The bytes that a text with escapes stands for, unless an escape lacks its two digits. -/
def decode : List Char → Option Bytes
  | [] => some []
  | '%' :: high :: low :: rest => do
    let h ← Hex.digitValue? high
    let l ← Hex.digitValue? low
    return UInt8.ofNat (h * 16 + l) :: (← decode rest)
  | c :: rest =>
    if c = '%' then none
    else (decode rest).map (String.utf8EncodeChar c ++ ·)

theorem decode_escape (b : UInt8) (rest : List Char) :
    decode ('%' :: Hex.upperDigit (b.toNat / 16) :: Hex.upperDigit (b.toNat % 16) :: rest) =
      (decode rest).map (b :: ·) := by
  have hb := b.toNat_lt
  rw [decode, Hex.digitValue_upperDigit _ (by omega), Hex.digitValue_upperDigit _ (by omega)]
  simp only [bind, Option.bind, pure, Hex.ofNat_digits]
  cases decode rest <;> rfl

theorem unreserved_char : ∀ b : UInt8, isUnreserved b →
    Char.ofNat b.toNat ≠ '%' ∧ String.utf8EncodeChar (Char.ofNat b.toNat) = [b] := by
  have all : ∀ n : Fin 256, isUnreserved (UInt8.ofNat n.val) →
      Char.ofNat n.val ≠ '%' ∧ String.utf8EncodeChar (Char.ofNat n.val) = [UInt8.ofNat n.val] := by
    decide +kernel
  intro b h
  have := all ⟨b.toNat, b.toNat_lt⟩
  simp only [UInt8.ofNat_toNat] at this
  exact this h

theorem decode_cons_of_ne {c : Char} (h : c ≠ '%') (rest : List Char) :
    decode (c :: rest) = (decode rest).map (String.utf8EncodeChar c ++ ·) := by
  rw [decode.eq_def]
  split
  · simp_all
  · simp_all
  · simp_all

theorem decode_encodeByte (b : UInt8) (rest : List Char) :
    decode (encodeByte b ++ rest) = (decode rest).map (b :: ·) := by
  unfold encodeByte
  split
  · rename_i h
    obtain ⟨ne, bytes⟩ := unreserved_char b h
    rw [List.singleton_append, decode_cons_of_ne ne, bytes]
    rfl
  · exact decode_escape b rest

theorem decode_encode (bs : Bytes) : decode (encode bs) = some bs := by
  induction bs with
  | nil => rfl
  | cons b bs ih =>
    rw [encode, List.flatMap_cons, decode_encodeByte]
    rw [encode] at ih
    simp [ih]

end NamedData.Percent
