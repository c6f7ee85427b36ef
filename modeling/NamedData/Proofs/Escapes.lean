/-
Percent escapes read from a buffer.

An escape is looked for byte by byte in the UTF-8 bytes of a text: a percent sign is taken together
with the two bytes after it, any other byte on its own.  No byte of a longer character looks like a
percent sign or a digit, so the text is read as it would be character by character.

* `utf8EncodeChar_cases` — bytes of ASCII are characters of ASCII;
* `decodeChecked_percent`, `decodeChecked_of_ne` — one round of the loop;
* `decodeChecked_eq` — reading a text that fits into memory meets no fault.
-/
import NamedData.Proofs.Checked

namespace NamedData

namespace Percent

open Checked

/-- The bytes from a position to another, if both are inside the buffer. -/
def range? (bs : Bytes) (start stop : Nat) : Option Bytes :=
  if start ≤ stop ∧ stop ≤ bs.length then some ((bs.take stop).drop start) else none

/-- The byte that the first two of some bytes stand for, if they are digits. -/
def escaped? : Bytes → Option UInt8
  | high :: low :: _ => do
    let h ← Hex.byteValue? high
    let l ← Hex.byteValue? low
    return UInt8.ofNat (h * 16 + l)
  | _ => none

/-- The bytes that a text with escapes stands for, from a position of its UTF-8 bytes on. -/
def decodeChecked (bytes : Bytes) (i : Nat) : Checked (Option Bytes) :=
  if _inside : i < bytes.length then do
    let b ← index bytes i
    if b = 37 then
      let start ← add i 1
      let stop ← add i 3
      match (range? bytes start stop).bind escaped? with
      | none => return none
      | some value =>
        let next ← add i 3
        if _progress : i < next then
          let rest ← decodeChecked bytes next
          return rest.map (value :: ·)
        else throw .endless
    else
      let next ← add i 1
      if _progress : i < next then
        let rest ← decodeChecked bytes next
        return rest.map (b :: ·)
      else throw .endless
  else return some []
termination_by bytes.length - i

/-- A character of ASCII is its own byte; the bytes of any other are no ASCII. -/
theorem utf8EncodeChar_cases (c : Char) :
    (c.toNat < 128 ∧ String.utf8EncodeChar c = [UInt8.ofNat c.toNat]) ∨
      (128 ≤ c.toNat ∧ String.utf8EncodeChar c ≠ [] ∧
        ∀ b ∈ String.utf8EncodeChar c, 128 ≤ b.toNat) := by
  have code : c.val.toNat = c.toNat := rfl
  have marked : ∀ n, 128 ≤ n → n < 256 → 128 ≤ (UInt8.ofNat n).toNat := by
    intro n low high
    rw [UInt8.toNat_ofNat', Nat.mod_eq_of_lt high]
    exact low
  unfold String.utf8EncodeChar
  rw [code]
  by_cases ascii : c.toNat ≤ 127
  · exact .inl ⟨by omega, if_pos ascii⟩
  · refine .inr ⟨by omega, ?_⟩
    simp only [ascii, if_false]
    split
    · refine ⟨by simp, ?_⟩
      simp only [List.forall_mem_cons]
      exact ⟨marked _ (by omega) (by omega), marked _ (by omega) (by omega), by simp⟩
    · split
      · refine ⟨by simp, ?_⟩
        simp only [List.forall_mem_cons]
        exact ⟨marked _ (by omega) (by omega), marked _ (by omega) (by omega),
          marked _ (by omega) (by omega), by simp⟩
      · refine ⟨by simp, ?_⟩
        simp only [List.forall_mem_cons]
        exact ⟨marked _ (by omega) (by omega), marked _ (by omega) (by omega),
          marked _ (by omega) (by omega), marked _ (by omega) (by omega), by simp⟩

theorem codeValue_eq_none {code : Nat} (h : 128 ≤ code) : Hex.codeValue? code = none := by
  unfold Hex.codeValue?
  rw [if_neg (by omega), if_neg (by omega), if_neg (by omega)]

/-- The first byte of a character is a digit exactly when the character is, and then it is its
only byte. -/
theorem exists_utf8_cons (c : Char) : ∃ b bs, String.utf8EncodeChar c = b :: bs ∧
    Hex.byteValue? b = Hex.digitValue? c ∧ (Hex.digitValue? c ≠ none → bs = []) := by
  rcases utf8EncodeChar_cases c with ⟨ascii, single⟩ | ⟨beyond, nonempty, marked⟩
  · refine ⟨UInt8.ofNat c.toNat, [], single, ?_, fun _ => rfl⟩
    rw [Hex.byteValue?, Hex.digitValue?, UInt8.toNat_ofNat', Nat.mod_eq_of_lt (by omega)]
  · obtain ⟨b, bs, hc⟩ := List.exists_cons_of_ne_nil nonempty
    have first : 128 ≤ b.toNat := marked b (by rw [hc]; exact List.mem_cons_self)
    have none : Hex.digitValue? c = none := codeValue_eq_none beyond
    refine ⟨b, bs, hc, ?_, fun digit => absurd none digit⟩
    rw [none]
    exact codeValue_eq_none first

/-- No byte of another character is a percent sign. -/
theorem ne_percent_of_mem {c : Char} (h : c ≠ '%') {b : UInt8}
    (hb : b ∈ String.utf8EncodeChar c) : b ≠ 37 := by
  rintro rfl
  rcases utf8EncodeChar_cases c with ⟨ascii, single⟩ | ⟨-, -, marked⟩
  · rw [single, List.mem_singleton] at hb
    have code := congrArg UInt8.toNat hb
    rw [UInt8.toNat_ofNat', Nat.mod_eq_of_lt (by omega)] at code
    exact h (Char.toNat_inj.mp code.symm)
  · exact absurd (marked _ hb) (by decide)

/-- The byte that the first two of some characters stand for, if they are digits. -/
def escapedChars? : List Char → Option UInt8
  | high :: low :: _ => do
    let h ← Hex.digitValue? high
    let l ← Hex.digitValue? low
    return UInt8.ofNat (h * 16 + l)
  | _ => none

/-- Two bytes are digits exactly when they belong to two characters that are. -/
theorem escaped_utf8 (cs : List Char) :
    escaped? (cs.flatMap String.utf8EncodeChar) = escapedChars? cs := by
  cases cs with
  | nil => rfl
  | cons high rest =>
    obtain ⟨b, bs, hb, value, alone⟩ := exists_utf8_cons high
    rw [List.flatMap_cons, hb]
    cases digit : Hex.digitValue? high with
    | none =>
      rw [digit] at value
      have bytes : escaped? (b :: bs ++ rest.flatMap String.utf8EncodeChar) = none := by
        rw [List.cons_append]
        cases bs ++ rest.flatMap String.utf8EncodeChar with
        | nil => rfl
        | cons low behind =>
          rw [escaped?, value]
          rfl
      rw [bytes]
      cases rest with
      | nil => rfl
      | cons low behind =>
        rw [escapedChars?, digit]
        rfl
    | some h =>
      rw [digit] at value
      rw [alone (by rw [digit]; exact Option.some_ne_none h)]
      cases rest with
      | nil => rfl
      | cons low behind =>
        obtain ⟨d, ds, hd, same, -⟩ := exists_utf8_cons low
        rw [List.flatMap_cons, hd, escapedChars?, digit, ← same]
        show escaped? (b :: d :: _) = _
        rw [escaped?, value]

theorem decode_escaped (rest : List Char) : decode ('%' :: rest) =
    (escapedChars? rest).bind fun value => (decode (rest.drop 2)).map (value :: ·) := by
  match rest with
  | [] => rfl
  | [_] => rfl
  | high :: low :: rest =>
    rw [decode, escapedChars?]
    cases Hex.digitValue? high with
    | none => rfl
    | some h =>
      cases Hex.digitValue? low with
      | none => rfl
      | some l =>
        show (decode rest).bind _ = (decode rest).map _
        cases decode rest <;> rfl

/-- Two digits take two bytes. -/
theorem drop_of_escapedChars {value : UInt8} {cs : List Char} (h : escapedChars? cs = some value) :
    (cs.flatMap String.utf8EncodeChar).drop 2 = (cs.drop 2).flatMap String.utf8EncodeChar := by
  match cs with
  | high :: low :: rest =>
    obtain ⟨m, hm, h⟩ := Option.bind_eq_some_iff.mp h
    obtain ⟨n, hn, -⟩ := Option.bind_eq_some_iff.mp h
    obtain ⟨b, bs, hb, -, alone⟩ := exists_utf8_cons high
    obtain ⟨d, ds, hd, -, single⟩ := exists_utf8_cons low
    rw [List.flatMap_cons, List.flatMap_cons, hb, hd,
      alone (by rw [hm]; exact Option.some_ne_none m),
      single (by rw [hn]; exact Option.some_ne_none n)]
    rfl

section

variable {bytes rest : Bytes} {i : Nat} {b : UInt8}

theorem of_drop_eq_cons (h : bytes.drop i = b :: rest) :
    i < bytes.length ∧ bytes[i]? = some b ∧ bytes.drop (i + 1) = rest := by
  have byte : bytes[i]? = some b := by
    rw [← Nat.add_zero i, ← List.getElem?_drop, h]
    rfl
  refine ⟨(List.getElem?_eq_some_iff.mp byte).1, byte, ?_⟩
  rw [← List.drop_drop, h]
  rfl

/-- A byte that is no percent sign is taken as it is. -/
theorem decodeChecked_of_ne (hb : bytes.length ≤ maxLength) (h : bytes.drop i = b :: rest)
    (ne : b ≠ 37) :
    decodeChecked bytes i = (decodeChecked bytes (i + 1)).map (Option.map (b :: ·)) := by
  obtain ⟨inside, byte, -⟩ := of_drop_eq_cons h
  rw [decodeChecked, dif_pos inside, index_eq byte, ok_bind, if_neg ne,
    add_eq (by omega), ok_bind, dif_pos (Nat.lt_succ_self i)]
  cases decodeChecked bytes (i + 1) <;> rfl

theorem range_bind_escaped (h : bytes.drop (i + 1) = rest) :
    (range? bytes (i + 1) (i + 3)).bind escaped? = escaped? rest := by
  have length : rest.length = bytes.length - (i + 1) := by rw [← h, List.length_drop]
  unfold range?
  by_cases inside : i + 3 ≤ bytes.length
  · rw [if_pos ⟨by omega, inside⟩, List.drop_take, h, Nat.add_sub_add_left]
    match rest, length with
    | high :: low :: _, _ => rfl
    | [_], length => simp only [List.length_cons, List.length_nil] at length; omega
    | [], length => simp only [List.length_nil] at length; omega
  · rw [if_neg fun both => inside both.2]
    match rest, length with
    | high :: low :: _, length => simp only [List.length_cons] at length; omega
    | [_], _ => rfl
    | [], _ => rfl

/-- A percent sign is taken with the two digits after it. -/
theorem decodeChecked_percent (hb : bytes.length ≤ maxLength) (h : bytes.drop i = 37 :: rest) :
    decodeChecked bytes i = match escaped? rest with
      | none => .ok none
      | some value => (decodeChecked bytes (i + 3)).map (Option.map (value :: ·)) := by
  obtain ⟨inside, byte, next⟩ := of_drop_eq_cons h
  rw [decodeChecked, dif_pos inside, index_eq byte, ok_bind, if_pos rfl,
    add_eq (show i + 1 ≤ _ by omega),
    add_eq (show i + 3 ≤ _ by omega), ok_bind, ok_bind,
    range_bind_escaped next]
  cases escaped? rest with
  | none => rfl
  | some value =>
    show (if _progress : i < i + 3 then _ else _) = _
    rw [dif_pos (by omega)]
    cases decodeChecked bytes (i + 3) <;> rfl

/-- Bytes without a percent sign are taken as they are. -/
theorem decodeChecked_append {plain : Bytes} (hb : bytes.length ≤ maxLength)
    (h : bytes.drop i = plain ++ rest) (ordinary : ∀ b ∈ plain, b ≠ 37) :
    decodeChecked bytes i =
      (decodeChecked bytes (i + plain.length)).map (Option.map (plain ++ ·)) := by
  induction plain generalizing i with
  | nil =>
    show _ = (decodeChecked bytes i).map _
    cases decodeChecked bytes i with
    | error e => rfl
    | ok r => cases r <;> rfl
  | cons b plain ih =>
    obtain ⟨-, -, next⟩ := of_drop_eq_cons h
    rw [decodeChecked_of_ne hb h (ordinary b List.mem_cons_self),
      ih next fun c hc => ordinary c (List.mem_cons_of_mem b hc), List.length_cons,
      Nat.add_right_comm, Nat.add_assoc]
    cases decodeChecked bytes (i + (plain.length + 1)) with
    | error e => rfl
    | ok r => cases r <;> rfl

/-- From the place of any character on, reading the UTF-8 bytes of a text with escapes meets no
fault. -/
theorem decodeChecked_eq (hb : bytes.length ≤ maxLength) {cs : List Char}
    (h : bytes.drop i = cs.flatMap String.utf8EncodeChar) :
    decodeChecked bytes i = .ok (decode cs) := by
  -- induction on how many characters are left
  induction hn : cs.length using Nat.strongRecOn generalizing cs i with
  | ind n ih =>
    cases cs with
    | nil =>
      rw [decodeChecked, dif_neg (Nat.not_lt.mpr (List.drop_eq_nil_iff.mp h))]
      rfl
    | cons c behind =>
      rw [List.length_cons] at hn
      rw [List.flatMap_cons] at h
      by_cases percent : c = '%'
      · subst percent
        have sign : bytes.drop i = 37 :: behind.flatMap String.utf8EncodeChar := h
        rw [decodeChecked_percent hb sign, escaped_utf8, decode_escaped]
        cases found : escapedChars? behind with
        | none => rfl
        | some value =>
          have left : bytes.drop (i + 3) = (behind.drop 2).flatMap String.utf8EncodeChar := by
            rw [← drop_of_escapedChars found, ← (of_drop_eq_cons sign).2.2, List.drop_drop]
          have shorter : (behind.drop 2).length < n := by
            rw [List.length_drop]
            omega
          show (decodeChecked bytes (i + 3)).map _ = _
          rw [ih _ shorter left rfl]
          rfl
      · have left : bytes.drop (i + (String.utf8EncodeChar c).length) =
            behind.flatMap String.utf8EncodeChar := by
          rw [← List.drop_drop, h, List.drop_left]
        rw [decodeChecked_append hb h fun b => ne_percent_of_mem percent,
          decode_cons_of_ne percent, ih _ (by omega) left rfl]
        rfl

end

end Percent

end NamedData
