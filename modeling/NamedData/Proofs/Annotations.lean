/-
Hexadecimal text may be annotated freely.

A text holds digits with white space and comments between them, and reading it takes exactly the
bytes that are neither.  What these are is said here without the reader, by the ways in which a
text is put together: `Dump.Annotated`.  Every text is put together in one way, so it has one
sequence of digits, and the text reads as bytes exactly if its digits spell them, in either case.
Otherwise their number is odd, or the first that is no digit is named with its place.

* `Hex.decode_eq_ok_iff`, `Hex.decode_eq_invalidDigit_iff` — what digits are decoded to, and which
  byte is reported when one of them is no digit;
* `Dump.annotated_iff` — the digits of a text are what the reader keeps of it;
* `Dump.ofHexText_annotated` — what an annotated text reads as.
-/
import NamedData.Proofs.HexText

namespace NamedData

/-! ### Digits -/

namespace Hex

/-- The byte is the code of the digit, lowercase or uppercase. -/
def Writes (d : Nat) (c : UInt8) : Prop :=
  c = UInt8.ofNat (lowerDigit d).toNat ∨ c = UInt8.ofNat (upperDigit d).toNat

instance (d : Nat) (c : UInt8) : Decidable (Writes d c) := inferInstanceAs (Decidable (_ ∨ _))

/-- The byte is the code of a digit. -/
def IsDigit (c : UInt8) : Prop := ∃ d < 16, Writes d c

/-- The digits are those of the bytes, two for each. -/
inductive Spells : Bytes → Bytes → Prop where
  | nil : Spells [] []
  | cons {b high low : UInt8} {ds bs : Bytes} (first : Writes (b.toNat / 16) high)
    (second : Writes (b.toNat % 16) low) (others : Spells ds bs) :
    Spells (high :: low :: ds) (b :: bs)

/-- The first byte that is no digit is this one, with so many digits before it. -/
def FirstInvalid (ds : Bytes) (c : UInt8) (i : Nat) : Prop :=
  ∃ front behind, ds = front ++ c :: behind ∧ front.length = i ∧ (∀ d ∈ front, IsDigit d) ∧
    ¬ IsDigit c

section

variable {c high low : UInt8} {d i index : Nat} {ds bs : Bytes}

theorem byteValue?_eq_some_iff : byteValue? c = some d ↔ d < 16 ∧ Writes d c := by
  have table : ∀ n < 256, ∀ d ∈ codeValue? n, d < 16 ∧ Writes d (UInt8.ofNat n) := by
    decide +kernel
  have upper : ∀ d < 16, byteValue? (UInt8.ofNat (upperDigit d).toNat) = some d := by decide
  constructor
  · intro value
    have written := table c.toNat c.toNat_lt d value
    rwa [UInt8.ofNat_toNat] at written
  · rintro ⟨small, rfl | rfl⟩
    · exact byteValue_lowerDigit d small
    · exact upper d small

theorem byteValue?_eq_none_iff : byteValue? c = none ↔ ¬ IsDigit c := by
  rw [Option.eq_none_iff_forall_ne_some, IsDigit, not_exists]
  exact forall_congr' fun _ => not_congr byteValue?_eq_some_iff

instance (c : UInt8) : Decidable (IsDigit c) :=
  decidable_of_iff (¬ byteValue? c = none) (by rw [byteValue?_eq_none_iff, Classical.not_not])

theorem IsDigit.exists_value (h : IsDigit c) : ∃ d, byteValue? c = some d := by
  obtain ⟨d, written⟩ := h
  exact ⟨d, byteValue?_eq_some_iff.mpr written⟩

/-! ### What is spelled -/

theorem Spells.length_eq (h : Spells ds bs) : ds.length = 2 * bs.length := by
  induction h with
  | nil => rfl
  | cons _ _ _ ih =>
    simp only [List.length_cons, ih]
    omega

theorem Spells.isDigit (h : Spells ds bs) : ∀ c ∈ ds, IsDigit c := by
  induction h with
  | nil => simp
  | @cons b _ _ _ _ first second _ ih =>
    have := b.toNat_lt
    intro c mem
    rcases List.mem_cons.mp mem with rfl | mem
    · exact ⟨_, by omega, first⟩
    rcases List.mem_cons.mp mem with rfl | mem
    · exact ⟨_, by omega, second⟩
    · exact ih c mem

/-- An even number of digits spells something. -/
theorem exists_spells : ∀ {ds : Bytes}, ds.length % 2 = 0 → (∀ c ∈ ds, IsDigit c) →
    ∃ bs, Spells ds bs
  | [], _, _ => ⟨[], .nil⟩
  | [_], even, _ => by cases even
  | high :: low :: rest, even, digits => by
    obtain ⟨h, small, first⟩ := digits high (by simp)
    obtain ⟨l, small', second⟩ := digits low (by simp)
    have shorter : rest.length % 2 = 0 := by
      simp only [List.length_cons] at even
      omega
    obtain ⟨bs, others⟩ := exists_spells shorter fun c mem => digits c (by simp [mem])
    obtain ⟨div, mod⟩ := digits_ofNat small small'
    exact ⟨UInt8.ofNat (h * 16 + l) :: bs, .cons (by rwa [div]) (by rwa [mod]) others⟩

/-- Either all are digits, or there is a first that is none. -/
theorem isDigit_or_firstInvalid (ds : Bytes) :
    (∀ c ∈ ds, IsDigit c) ∨ ∃ c i, FirstInvalid ds c i := by
  induction ds with
  | nil => exact .inl (by simp)
  | cons d ds ih =>
    by_cases digit : IsDigit d
    · rcases ih with digits | ⟨c, i, front, behind, rfl, -, digits, bad⟩
      · exact .inl (List.forall_mem_cons.mpr ⟨digit, digits⟩)
      · exact .inr ⟨c, _, d :: front, behind, rfl, rfl,
          List.forall_mem_cons.mpr ⟨digit, digits⟩, bad⟩
    · exact .inr ⟨d, 0, [], ds, rfl, rfl, by simp, digit⟩

/-! ### What is decoded -/

theorem decodePairs_of_spells (h : Spells ds bs) : decodePairs index ds = .ok bs := by
  induction h generalizing index with
  | nil => rfl
  | @cons b high low ds bs first second others ih =>
    have := b.toNat_lt
    have high := byteValue?_eq_some_iff.mpr ⟨by omega, first⟩
    have low := byteValue?_eq_some_iff.mpr ⟨by omega, second⟩
    simp only [decodePairs, high, low, ih, ofNat_digits]
    rfl

/-- The two digits of a byte are looked at in turn, so the first that is none may be either. -/
theorem decodePairs_front : ∀ {front behind : Bytes} {index : Nat}, (∀ d ∈ front, IsDigit d) →
    ¬ IsDigit c → (front ++ c :: behind).length % 2 = 0 →
      decodePairs index (front ++ c :: behind) = .error (.invalidDigit c (index + front.length))
  | [], [], _, _, _, even => by cases even
  | [], low :: rest, index, _, bad, _ => by
    have first := byteValue?_eq_none_iff.mpr bad
    simp only [List.nil_append, decodePairs, first]
    rfl
  | [high], behind, index, digits, bad, _ => by
    obtain ⟨d, first⟩ := (digits high (by simp)).exists_value
    have second := byteValue?_eq_none_iff.mpr bad
    simp only [List.cons_append, List.nil_append, decodePairs, first, second]
    rfl
  | high :: low :: front, behind, index, digits, bad, even => by
    obtain ⟨d, first⟩ := (digits high (by simp)).exists_value
    obtain ⟨e, second⟩ := (digits low (by simp)).exists_value
    have shorter : (front ++ c :: behind).length % 2 = 0 := by
      simp only [List.cons_append, List.length_cons] at even
      omega
    have others : decodePairs (index + 2) (front ++ c :: behind) =
        .error (.invalidDigit c (index + 2 + front.length)) :=
      decodePairs_front (fun d mem => digits d (by simp [mem])) bad shorter
    have place : index + 2 + front.length = index + (front.length + 1 + 1) := by omega
    rw [place] at others
    simp only [List.cons_append, decodePairs, first, second, others, List.length_cons]
    rfl

theorem decode_of_even (even : ds.length % 2 = 0) : decode ds = decodePairs 0 ds :=
  if_neg (by omega)

theorem decode_of_spells (h : Spells ds bs) : decode ds = .ok bs := by
  have even : ds.length % 2 = 0 := by
    have := h.length_eq
    omega
  rw [decode_of_even even, decodePairs_of_spells h]

theorem decode_of_firstInvalid (even : ds.length % 2 = 0) (h : FirstInvalid ds c i) :
    decode ds = .error (.invalidDigit c i) := by
  obtain ⟨front, behind, rfl, rfl, digits, bad⟩ := h
  rw [decode_of_even even, decodePairs_front digits bad even, Nat.zero_add]

/-- What decoding gives in each of three cases, one of which is there. -/
theorem decode_cases (ds : Bytes) :
    (ds.length % 2 = 1 ∧ decode ds = .error .oddLength) ∨
    (∃ bs, Spells ds bs ∧ decode ds = .ok bs) ∨
    ∃ c i, (ds.length % 2 = 0 ∧ FirstInvalid ds c i) ∧ decode ds = .error (.invalidDigit c i) := by
  by_cases odd : ds.length % 2 = 1
  · exact .inl ⟨odd, if_pos odd⟩
  · have even : ds.length % 2 = 0 := by omega
    rcases isDigit_or_firstInvalid ds with digits | ⟨c, i, invalid⟩
    · obtain ⟨bs, spelled⟩ := exists_spells even digits
      exact .inr (.inl ⟨bs, spelled, decode_of_spells spelled⟩)
    · exact .inr (.inr ⟨c, i, ⟨even, invalid⟩, decode_of_firstInvalid even invalid⟩)

/-- Decoding succeeds with the bytes that are spelled. -/
theorem decode_eq_ok_iff : decode ds = .ok bs ↔ Spells ds bs := by
  refine ⟨?_, decode_of_spells⟩
  intro h
  rcases decode_cases ds with ⟨-, odd⟩ | ⟨bs', spelled, ok⟩ | ⟨c, i, -, invalid⟩
  · rw [h] at odd
    cases odd
  · rw [h] at ok
    cases ok
    exact spelled
  · rw [h] at invalid
    cases invalid

theorem decode_eq_oddLength_iff : decode ds = .error .oddLength ↔ ds.length % 2 = 1 := by
  refine ⟨?_, fun odd => if_pos odd⟩
  intro h
  rcases decode_cases ds with ⟨odd, -⟩ | ⟨bs, -, ok⟩ | ⟨c, i, -, invalid⟩
  · exact odd
  · rw [h] at ok
    cases ok
  · rw [h] at invalid
    cases invalid

/-- The first of an even number of bytes that is no digit is reported with its place. -/
theorem decode_eq_invalidDigit_iff :
    decode ds = .error (.invalidDigit c i) ↔ ds.length % 2 = 0 ∧ FirstInvalid ds c i := by
  refine ⟨?_, fun h => decode_of_firstInvalid h.1 h.2⟩
  intro h
  rcases decode_cases ds with ⟨-, odd⟩ | ⟨bs, -, ok⟩ | ⟨c', i', found, invalid⟩
  · rw [h] at odd
    cases odd
  · rw [h] at ok
    cases ok
  · rw [h] at invalid
    cases invalid
    exact found

end

end Hex

/-! ### Annotated texts -/

namespace Dump

/-- The text consists of digits and of annotations between them: white space, and comments that run
to the end of a line or of the text, with anything in them.  What counts as a digit here is any
byte that neither is white space nor begins a comment. -/
inductive Annotated : Bytes → Bytes → Prop where
  | done : Annotated [] []
  | digit {c : UInt8} {ds text : Bytes} (mark : c ≠ 35) (blank : isBlank c = false)
    (others : Annotated ds text) : Annotated (c :: ds) (c :: text)
  | blank {c : UInt8} {ds text : Bytes} (blank : isBlank c = true) (others : Annotated ds text) :
    Annotated ds (c :: text)
  | comment {comment ds text : Bytes} (line : 10 ∉ comment) (others : Annotated ds text) :
    Annotated ds (35 :: comment ++ 10 :: text)
  | lastComment {comment : Bytes} (line : 10 ∉ comment) : Annotated [] (35 :: comment)

section

variable {c : UInt8} {ds text comment bs : Bytes}

theorem not_isBlank_of_isDigit (h : Hex.IsDigit c) : c ≠ 35 ∧ isBlank c = false := by
  have lower : ∀ d < 16, UInt8.ofNat (Hex.lowerDigit d).toNat ≠ 35 ∧
      isBlank (UInt8.ofNat (Hex.lowerDigit d).toNat) = false := by decide
  have upper : ∀ d < 16, UInt8.ofNat (Hex.upperDigit d).toNat ≠ 35 ∧
      isBlank (UInt8.ofNat (Hex.upperDigit d).toNat) = false := by decide
  obtain ⟨d, small, rfl | rfl⟩ := h
  · exact lower d small
  · exact upper d small

/-- Nothing is kept of a comment before its line ends. -/
theorem significant_inside (line : 10 ∉ comment) (text : Bytes) :
    significant true (comment ++ text) = significant true text := by
  induction comment with
  | nil => rfl
  | cons b rest ih =>
    rw [List.mem_cons, not_or] at line
    have inside : (b != 10) = true := bne_iff_ne.mpr (Ne.symm line.1)
    rw [List.cons_append, significant, inside, ih line.2]

theorem significant_comment (line : 10 ∉ comment) (text : Bytes) :
    significant true (comment ++ 10 :: text) = significant false text := by
  rw [significant_inside line]
  rfl

theorem significant_lastComment (line : 10 ∉ comment) : significant true comment = [] := by
  have ended := significant_inside line []
  rwa [List.append_nil] at ended

theorem significant_of_annotated (h : Annotated ds text) : significant false text = ds := by
  induction h with
  | done => rfl
  | digit mark blank _ ih => rw [significant_cons mark blank, ih]
  | @blank c _ _ blank _ ih =>
    have mark : c ≠ 35 := by
      rintro rfl
      cases blank
    rw [significant, if_neg mark, if_pos blank, ih]
  | comment line _ ih =>
    rw [List.cons_append, significant, if_pos rfl, significant_comment line, ih]
  | lastComment line => rw [significant, if_pos rfl, significant_lastComment line]

/-- Every text is annotated: each comment is followed by a shorter text, or by none. -/
theorem annotated_significant (text : Bytes) : Annotated (significant false text) text := by
  match text with
  | [] => exact .done
  | c :: rest =>
    by_cases mark : c = 35
    · subst mark
      rw [significant, if_pos rfl]
      by_cases ends : 10 ∈ rest
      · obtain ⟨comment, behind, parts, line⟩ := List.eq_append_cons_of_mem ends
        have others := annotated_significant behind
        rw [parts, significant_comment line]
        exact .comment line others
      · rw [significant_lastComment ends]
        exact .lastComment ends
    · have others := annotated_significant rest
      rw [significant, if_neg mark]
      cases blank : isBlank c with
      | true => exact .blank blank others
      | false => exact .digit mark blank others
termination_by text.length
decreasing_by
  · rw [parts, List.length_cons, List.length_append, List.length_cons]
    omega
  · exact Nat.lt_succ_self _

/-- The digits of a text are what is kept when it is read. -/
theorem annotated_iff : Annotated ds text ↔ significant false text = ds :=
  ⟨significant_of_annotated, fun same => same ▸ annotated_significant text⟩

theorem Annotated.hexDigit (h : Annotated ds text) (digit : Hex.IsDigit c) :
    Annotated (c :: ds) (c :: text) := by
  obtain ⟨mark, blank⟩ := not_isBlank_of_isDigit digit
  exact .digit mark blank h

/-- A text reads as what its digits spell. -/
theorem Annotated.ofHexText_eq_ok_iff (h : Annotated ds text) :
    ofHexText text = .ok bs ↔ Hex.Spells ds bs := by
  rw [ofHexText, annotated_iff.mp h, ← Hex.decode_eq_ok_iff]
  cases Hex.decode ds <;> simp

theorem Annotated.ofHexText_eq_error_iff (h : Annotated ds text) {cause : Hex.DigitError} :
    ofHexText text = .error (.hex cause) ↔ Hex.decode ds = .error cause := by
  rw [ofHexText, annotated_iff.mp h]
  cases Hex.decode ds <;> simp

end

/-- Any digit may stand anywhere in a text, and a text that annotates the digits of bytes, in either
case, reads as those bytes.  Every text annotates one sequence of bytes, and if it reads as
anything, these are the digits of that.  Otherwise they are odd in number, or the first of them that
is no digit is reported with its place among them. -/
theorem ofHexText_annotated :
    (∀ (c : UInt8) (ds text : Bytes), Hex.IsDigit c → Annotated ds text →
      Annotated (c :: ds) (c :: text)) ∧
    (∀ bs ds text : Bytes, Hex.Spells ds bs → Annotated ds text → ofHexText text = .ok bs) ∧
    (∀ text : Bytes, ∃ ds, Annotated ds text ∧ ∀ ds', Annotated ds' text → ds' = ds) ∧
    ∀ ds text : Bytes, Annotated ds text →
      (∀ bs, ofHexText text = .ok bs → Hex.Spells ds bs ∧ ds.length = 2 * bs.length) ∧
      ((∃ bs, ofHexText text = .ok bs) ↔ ds.length % 2 = 0 ∧ ∀ c ∈ ds, Hex.IsDigit c) ∧
      (ofHexText text = .error (.hex .oddLength) ↔ ds.length % 2 = 1) ∧
      ∀ c i, ofHexText text = .error (.hex (.invalidDigit c i)) ↔
        ds.length % 2 = 0 ∧ Hex.FirstInvalid ds c i := by
  refine ⟨fun c ds text digit h => h.hexDigit digit,
    fun bs ds text spelled h => h.ofHexText_eq_ok_iff.mpr spelled, ?_, ?_⟩
  · intro text
    refine ⟨_, annotated_significant text, ?_⟩
    intro ds' h
    exact (annotated_iff.mp h).symm
  · intro ds text h
    refine ⟨?_, ?_, ?_, ?_⟩
    · intro bs ok
      have spelled := h.ofHexText_eq_ok_iff.mp ok
      exact ⟨spelled, spelled.length_eq⟩
    · constructor
      · rintro ⟨bs, ok⟩
        have spelled := h.ofHexText_eq_ok_iff.mp ok
        have := spelled.length_eq
        exact ⟨by omega, spelled.isDigit⟩
      · rintro ⟨even, digits⟩
        obtain ⟨bs, spelled⟩ := Hex.exists_spells even digits
        exact ⟨bs, h.ofHexText_eq_ok_iff.mpr spelled⟩
    · rw [h.ofHexText_eq_error_iff, Hex.decode_eq_oddLength_iff]
    · intro c i
      rw [h.ofHexText_eq_error_iff, Hex.decode_eq_invalidDigit_iff]

/-- The bytes `0a b1` with a comment between the digits of the first byte that has a number sign
and a byte of no character in it, a carriage return, an uppercase digit and a last comment that no
line feed ends; and a text whose third digit is none. -/
theorem ofHexText_annotated_comments :
    ofHexText ([48] ++ [35, 35, 255, 10] ++ [97, 13, 10] ++ [66, 32, 49] ++ [35, 120]) =
        .ok [0x0a, 0xb1] ∧
      ofHexText ([48, 97] ++ [35, 10] ++ [120, 49]) = .error (.hex (.invalidDigit 120 2)) := by
  obtain ⟨-, reads, -, others⟩ := ofHexText_annotated
  constructor
  · have spelled : Hex.Spells [48, 97, 66, 49] [0x0a, 0xb1] :=
      .cons (by decide) (by decide) (.cons (by decide) (by decide) .nil)
    exact reads _ _ _ spelled (annotated_iff.mpr (by decide))
  · have annotated : Annotated [48, 97, 120, 49] ([48, 97] ++ [35, 10] ++ [120, 49]) :=
      annotated_iff.mpr (by decide)
    have front : Hex.Spells [48, 97] [0x0a] := .cons (by decide) (by decide) .nil
    obtain ⟨-, -, -, invalid⟩ := others _ _ annotated
    exact (invalid 120 2).mpr ⟨by decide, [48, 97], [49], rfl, rfl, front.isDigit, by decide⟩

end Dump

end NamedData
