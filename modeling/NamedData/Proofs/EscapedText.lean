/-
Escaped components are read exactly.

A text spells bytes with characters and with escapes.  A character stands for its UTF-8 bytes, and
an escape, a percent sign and two digits, for one byte.  `Percent.Spells` says this without the
reader.  Since a percent sign is no digit, no percent sign is skipped as a part of an escape, and a
text spells something exactly if two digits follow each of its percent signs.  The rule of periods
comes after that, so a component depends on the bytes alone and not on how they are spelled.

* `Percent.decode_eq_some_iff` — the reader gives the bytes that are spelled;
* `Percent.exists_spells_iff` — which texts spell bytes;
* `Percent.decode_append` — behind what spells something, the rest is read on its own;
* `Component.ofUri_of_spells` — the component of a text, or why there is none;
* `Component.ofUri_exact` — all of it together.
-/
import NamedData.Name.Component
import NamedData.Proofs.Escapes

namespace NamedData

/-! ### Digits -/

namespace Hex

/-- The character is the digit, lowercase or uppercase. -/
def Shows (d : Nat) (c : Char) : Prop := c = lowerDigit d ∨ c = upperDigit d

instance (d : Nat) (c : Char) : Decidable (Shows d c) := inferInstanceAs (Decidable (_ ∨ _))

/-- The character is a hexadecimal digit. -/
def IsDigitChar (c : Char) : Prop := ∃ d < 16, Shows d c

theorem digitValue?_eq_some_iff {c : Char} {d : Nat} :
    digitValue? c = some d ↔ d < 16 ∧ Shows d c := by
  have table : ∀ n < 128, ∀ d ∈ codeValue? n, d < 16 ∧ Shows d (Char.ofNat n) := by
    decide +kernel
  constructor
  · intro value
    by_cases ascii : c.toNat < 128
    · have shown := table c.toNat ascii d value
      rwa [Char.ofNat_toNat] at shown
    · have none : digitValue? c = none := Percent.codeValue_eq_none (by omega)
      rw [none] at value
      cases value
  · rintro ⟨small, rfl | rfl⟩
    · exact digitValue_lowerDigit d small
    · exact digitValue_upperDigit d small

theorem IsDigitChar.ne_percent {c : Char} (h : IsDigitChar c) : c ≠ '%' := by
  rintro rfl
  obtain ⟨d, shown⟩ := h
  cases digitValue?_eq_some_iff.mpr shown

end Hex

/-! ### What is spelled -/

namespace Percent

/-- The text spells the bytes: a character that is no percent sign its UTF-8 bytes, and a percent
sign with two digits of either case the byte that has these digits. -/
inductive Spells : List Char → Bytes → Prop where
  | nil : Spells [] []
  | char {c : Char} {cs : List Char} {bs : Bytes} (plain : c ≠ '%') (others : Spells cs bs) :
    Spells (c :: cs) (String.utf8EncodeChar c ++ bs)
  | escape {b : UInt8} {high low : Char} {cs : List Char} {bs : Bytes}
    (first : Hex.Shows (b.toNat / 16) high) (second : Hex.Shows (b.toNat % 16) low)
    (others : Spells cs bs) : Spells ('%' :: high :: low :: cs) (b :: bs)

/-- Two digits follow every percent sign. -/
def WellEscaped (cs : List Char) : Prop :=
  ∀ front behind, cs = front ++ '%' :: behind →
    ∃ high low rest, behind = high :: low :: rest ∧ Hex.IsDigitChar high ∧ Hex.IsDigitChar low

section

variable {c : Char} {cs : List Char} {b : UInt8} {bs xs : Bytes}

theorem isDigitChar_of_shows (first : Hex.Shows (b.toNat / 16) c) : Hex.IsDigitChar c := by
  have := b.toNat_lt
  exact ⟨_, by omega, first⟩

/-- Two digits give the byte that has them. -/
theorem escapedChars?_eq_some_iff : escapedChars? cs = some b ↔
    ∃ high low rest, cs = high :: low :: rest ∧ Hex.Shows (b.toNat / 16) high ∧
      Hex.Shows (b.toNat % 16) low := by
  constructor
  · intro h
    match cs with
    | high :: low :: rest =>
      obtain ⟨m, hm, h⟩ := Option.bind_eq_some_iff.mp h
      obtain ⟨n, hn, h⟩ := Option.bind_eq_some_iff.mp h
      obtain ⟨small, first⟩ := Hex.digitValue?_eq_some_iff.mp hm
      obtain ⟨small', second⟩ := Hex.digitValue?_eq_some_iff.mp hn
      obtain ⟨div, mod⟩ := Hex.digits_ofNat small small'
      cases h
      exact ⟨high, low, rest, rfl, by rwa [div], by rwa [mod]⟩
  · rintro ⟨high, low, rest, rfl, first, second⟩
    have := b.toNat_lt
    rw [escapedChars?, Hex.digitValue?_eq_some_iff.mpr ⟨by omega, first⟩,
      Hex.digitValue?_eq_some_iff.mpr ⟨by omega, second⟩]
    exact congrArg some (Hex.ofNat_digits b)

/-- Behind what spells something, the rest of a text is read on its own. -/
theorem decode_append (h : Spells cs bs) (rest : List Char) :
    decode (cs ++ rest) = (decode rest).map (bs ++ ·) := by
  induction h with
  | nil =>
    show decode rest = (decode rest).map id
    rw [Option.map_id_fun, id]
  | char plain _ ih =>
    rw [List.cons_append, decode_cons_of_ne plain, ih, Option.map_map]
    congr 1
    funext behind
    exact (List.append_assoc _ _ _).symm
  | @escape b high low cs bs first second _ ih =>
    have digits : escapedChars? (high :: low :: (cs ++ rest)) = some b :=
      escapedChars?_eq_some_iff.mpr ⟨high, low, _, rfl, first, second⟩
    show decode ('%' :: high :: low :: (cs ++ rest)) = _
    rw [decode_escaped, digits]
    show (decode (cs ++ rest)).map _ = _
    rw [ih, Option.map_map]
    rfl

theorem spells_of_decode (h : decode cs = some bs) : Spells cs bs := by
  -- induction on how many characters are left, since an escape takes three
  induction hn : cs.length using Nat.strongRecOn generalizing cs bs with
  | ind n ih =>
    cases cs with
    | nil =>
      cases h
      exact .nil
    | cons c behind =>
      rw [List.length_cons] at hn
      by_cases percent : c = '%'
      · subst percent
        rw [decode_escaped] at h
        obtain ⟨b, digits, h⟩ := Option.bind_eq_some_iff.mp h
        obtain ⟨others, left, rfl⟩ := Option.map_eq_some_iff.mp h
        obtain ⟨high, low, rest, rfl, first, second⟩ := escapedChars?_eq_some_iff.mp digits
        simp only [List.length_cons] at hn
        exact .escape first second (ih rest.length (by omega) left rfl)
      · rw [decode_cons_of_ne percent] at h
        obtain ⟨others, left, rfl⟩ := Option.map_eq_some_iff.mp h
        exact .char percent (ih behind.length (by omega) left rfl)

/-- The reader gives the bytes that are spelled. -/
theorem decode_eq_some_iff : decode cs = some bs ↔ Spells cs bs := by
  refine ⟨spells_of_decode, fun h => ?_⟩
  have whole := decode_append h []
  rw [List.append_nil] at whole
  rw [whole]
  exact congrArg some (List.append_nil bs)

theorem Spells.unique (h : Spells cs bs) (h' : Spells cs xs) : bs = xs := by
  have same := decode_eq_some_iff.mpr h
  rw [decode_eq_some_iff.mpr h'] at same
  exact (Option.some.inj same).symm

theorem Spells.wellEscaped (h : Spells cs bs) : WellEscaped cs := by
  induction h with
  | nil =>
    intro front behind parts
    cases front <;> cases parts
  | char plain _ ih =>
    intro front behind parts
    cases front with
    | nil =>
      cases parts
      exact absurd rfl plain
    | cons d front =>
      cases parts
      exact ih front behind rfl
  | @escape b high low cs bs first second _ ih =>
    have digit : Hex.IsDigitChar high := isDigitChar_of_shows first
    have digit' : Hex.IsDigitChar low := ⟨_, Nat.mod_lt _ (by decide), second⟩
    -- the percent sign is the one of this escape, and not a digit of it, or stands behind it
    intro front behind parts
    match front with
    | [] =>
      cases parts
      exact ⟨high, low, cs, rfl, digit, digit'⟩
    | [_] =>
      cases parts
      exact absurd rfl digit.ne_percent
    | [_, _] =>
      cases parts
      exact absurd rfl digit'.ne_percent
    | _ :: _ :: _ :: front =>
      cases parts
      exact ih front behind rfl

theorem WellEscaped.of_append (before : List Char) (h : WellEscaped (before ++ cs)) :
    WellEscaped cs := by
  intro front behind parts
  exact h (before ++ front) behind (by rw [parts, List.append_assoc])

theorem WellEscaped.exists_spells : ∀ {cs : List Char}, WellEscaped cs → ∃ bs, Spells cs bs
  | [], _ => ⟨[], .nil⟩
  | c :: behind, h => by
    by_cases percent : c = '%'
    · subst percent
      obtain ⟨high, low, rest, rfl, ⟨m, small, first⟩, ⟨n, small', second⟩⟩ := h [] behind rfl
      obtain ⟨div, mod⟩ := Hex.digits_ofNat small small'
      have others : WellEscaped rest := of_append ['%', high, low] h
      obtain ⟨bs, spelled⟩ := exists_spells others
      exact ⟨UInt8.ofNat (m * 16 + n) :: bs, .escape (by rwa [div]) (by rwa [mod]) spelled⟩
    · have others : WellEscaped behind := of_append [c] h
      obtain ⟨bs, spelled⟩ := exists_spells others
      exact ⟨_, .char percent spelled⟩
termination_by cs => cs.length

/-- A text spells something exactly if two digits follow every percent sign. -/
theorem exists_spells_iff : (∃ bs, Spells cs bs) ↔ WellEscaped cs :=
  ⟨fun ⟨_, spelled⟩ => spelled.wellEscaped, WellEscaped.exists_spells⟩

end

end Percent

/-! ### Components -/

namespace Component

variable {cs ds : List Char} {bs : Bytes}

/-- What is left of spelled bytes: of periods alone, and at least one, three are dropped. -/
def unmarked (bs : Bytes) : Bytes :=
  if bs ≠ [] ∧ allPeriods bs then bs.drop 3 else bs

/-- One period or two. -/
theorem few_periods_iff :
    (bs ≠ [] ∧ allPeriods bs) ∧ bs.length < 3 ↔ bs = [46] ∨ bs = [46, 46] := by
  match bs with
  | [] => simp
  | [_] => simp [allPeriods]
  | [_, _] => simp [allPeriods]
  | _ :: _ :: _ :: _ => simp

/-- The component of a text that spells bytes. -/
theorem ofUri_of_spells (h : Percent.Spells cs bs) :
    ofUri cs = if bs = [46] ∨ bs = [46, 46] then .error (.illegalComponent (String.ofList cs))
      else .ok ⟨unmarked bs⟩ := by
  rw [ofUri, Percent.decode_eq_some_iff.mpr h]
  simp only [unmarked, ← few_periods_iff]
  by_cases periods : bs ≠ [] ∧ allPeriods bs
  · by_cases few : bs.length < 3
    · rw [if_pos periods, if_pos few, if_pos ⟨periods, few⟩]
    · rw [if_pos periods, if_neg few, if_neg fun both => few both.2, if_pos periods]
  · rw [if_neg periods, if_neg fun both => periods both.1, if_neg periods]

theorem ofUri_of_not_wellEscaped (h : ¬ Percent.WellEscaped cs) :
    ofUri cs = .error (.badEscape (String.ofList cs)) := by
  have none : Percent.decode cs = none := by
    rw [Option.eq_none_iff_forall_ne_some]
    intro bs decoded
    exact h (Percent.decode_eq_some_iff.mp decoded).wellEscaped
  rw [ofUri, none]

/-- Texts that are decoded to the same bytes, or to none, give the same component, or none. -/
theorem toOption_ofUri_congr (h : Percent.decode cs = Percent.decode ds) :
    (ofUri cs).toOption = (ofUri ds).toOption := by
  cases decoded : Percent.decode cs with
  | none =>
    rw [ofUri, ofUri, ← h, decoded]
    rfl
  | some bs =>
    have spelled := Percent.decode_eq_some_iff.mp decoded
    have alike := Percent.decode_eq_some_iff.mp (h ▸ decoded)
    rw [ofUri_of_spells spelled, ofUri_of_spells alike]
    by_cases few : bs = [46] ∨ bs = [46, 46]
    · rw [if_pos few, if_pos few]
      rfl
    · rw [if_neg few, if_neg few]

/-- Every text falls into one of three cases. -/
theorem ofUri_cases (s : String) :
    (¬ Percent.WellEscaped s.toList ∧ ofUri s.toList = .error (.badEscape s)) ∨
    (∃ bs, Percent.Spells s.toList bs ∧ (bs = [46] ∨ bs = [46, 46]) ∧
      ofUri s.toList = .error (.illegalComponent s)) ∨
    ∃ bs, Percent.Spells s.toList bs ∧ ¬ (bs = [46] ∨ bs = [46, 46]) ∧
      ofUri s.toList = .ok ⟨unmarked bs⟩ := by
  by_cases escaped : Percent.WellEscaped s.toList
  · obtain ⟨bs, spelled⟩ := escaped.exists_spells
    have read := ofUri_of_spells spelled
    rw [String.ofList_toList] at read
    by_cases few : bs = [46] ∨ bs = [46, 46]
    · rw [if_pos few] at read
      exact .inr (.inl ⟨bs, spelled, few, read⟩)
    · rw [if_neg few] at read
      exact .inr (.inr ⟨bs, spelled, few, read⟩)
  · have read := ofUri_of_not_wellEscaped escaped
    rw [String.ofList_toList] at read
    exact .inl ⟨escaped, read⟩

theorem ofUri_eq_ok_iff {s : String} {c : Component} : ofUri s.toList = .ok c ↔
    ∃ bs, Percent.Spells s.toList bs ∧ ¬ (bs = [46] ∨ bs = [46, 46]) ∧ c.value = unmarked bs := by
  constructor
  · intro h
    rcases ofUri_cases s with ⟨-, read⟩ | ⟨bs, -, -, read⟩ | ⟨bs, spelled, many, read⟩
    · rw [h] at read
      cases read
    · rw [h] at read
      cases read
    · rw [h] at read
      cases read
      exact ⟨bs, spelled, many, rfl⟩
  · rintro ⟨bs, spelled, many, value⟩
    rw [ofUri_of_spells spelled, if_neg many, ← value]

theorem ofUri_eq_badEscape_iff {s : String} :
    ofUri s.toList = .error (.badEscape s) ↔ ¬ Percent.WellEscaped s.toList := by
  rcases ofUri_cases s with ⟨escaped, read⟩ | ⟨bs, spelled, -, read⟩ | ⟨bs, spelled, -, read⟩
  · simp [escaped, read]
  · simp [spelled.wellEscaped, read]
  · simp [spelled.wellEscaped, read]

theorem ofUri_eq_illegalComponent_iff {s : String} :
    ofUri s.toList = .error (.illegalComponent s) ↔
      Percent.Spells s.toList [46] ∨ Percent.Spells s.toList [46, 46] := by
  constructor
  · intro h
    rcases ofUri_cases s with ⟨-, read⟩ | ⟨bs, spelled, few, -⟩ | ⟨bs, -, -, read⟩
    · rw [h] at read
      cases read
    · rcases few with rfl | rfl
      · exact .inl spelled
      · exact .inr spelled
    · rw [h] at read
      cases read
  · rintro (spelled | spelled)
    · rw [ofUri_of_spells spelled, if_pos (.inl rfl), String.ofList_toList]
    · rw [ofUri_of_spells spelled, if_pos (.inr rfl), String.ofList_toList]

/-- Behind the same front, one spelling may stand in the place of another. -/
theorem toOption_ofUri_append {front ts behind : List Char} {xs : Bytes}
    (begins : Percent.Spells front xs) (first : Percent.Spells cs bs)
    (second : Percent.Spells ts bs) :
    (ofUri (front ++ cs ++ behind)).toOption = (ofUri (front ++ ts ++ behind)).toOption := by
  apply toOption_ofUri_congr
  rw [List.append_assoc, List.append_assoc, Percent.decode_append begins,
    Percent.decode_append begins, Percent.decode_append first, Percent.decode_append second]

/-- A text is read as a component exactly if two digits follow every percent sign, so that it spells
bytes, and these are not one period and not two; the value is what is spelled, less three periods if
that is periods alone.  Texts that spell nothing, and texts that spell one period or two, are refused
each for its own reason.  A part of a text may be spelled in another way, with other characters
escaped or with digits of the other case, and the text gives the same component, or none as before.
Every byte string is the value of some text.  Looking for escapes in the UTF-8 bytes of a text finds
what the text spells. -/
theorem ofUri_exact :
    (∀ s : String, (∃ bs, Percent.Spells s.toList bs) ↔ Percent.WellEscaped s.toList) ∧
    (∀ (s : String) (bs bs' : Bytes), Percent.Spells s.toList bs → Percent.Spells s.toList bs' →
      bs = bs') ∧
    (∀ (s : String) (c : Component), ofUri s.toList = .ok c ↔
      ∃ bs, Percent.Spells s.toList bs ∧ ¬ (bs = [46] ∨ bs = [46, 46]) ∧
        c.value = if bs ≠ [] ∧ bs.all (· == 46) then bs.drop 3 else bs) ∧
    (∀ s : String, ofUri s.toList = .error (.badEscape s) ↔ ¬ Percent.WellEscaped s.toList) ∧
    (∀ s : String, ofUri s.toList = .error (.illegalComponent s) ↔
      Percent.Spells s.toList [46] ∨ Percent.Spells s.toList [46, 46]) ∧
    (∀ (front s t behind : String) (xs bs : Bytes), Percent.Spells front.toList xs →
      Percent.Spells s.toList bs → Percent.Spells t.toList bs →
      (ofUri (front ++ s ++ behind).toList).toOption =
        (ofUri (front ++ t ++ behind).toList).toOption) ∧
    (∀ bs : Bytes, ∃ s : String, ofUri s.toList = .ok ⟨bs⟩) ∧
    ∀ (s : String) (bs : Bytes), (utf8 s).length ≤ maxLength →
      (Percent.decodeChecked (utf8 s) 0 = .ok (some bs) ↔ Percent.Spells s.toList bs) := by
  refine ⟨fun s => Percent.exists_spells_iff, fun s bs bs' h h' => h.unique h',
    fun s c => ofUri_eq_ok_iff, fun s => ofUri_eq_badEscape_iff,
    fun s => ofUri_eq_illegalComponent_iff, ?_, ?_, ?_⟩
  · intro front s t behind xs bs begins first second
    simp only [String.toList_append]
    exact toOption_ofUri_append begins first second
  · intro bs
    refine ⟨uri ⟨bs⟩, ?_⟩
    rw [uri, String.toList_ofList, ofUri_uriChars]
  · intro s bs short
    rw [Percent.decodeChecked_eq short rfl, ← Percent.decode_eq_some_iff]
    simp

/-- Three periods, two of them escaped in different case, are the empty component; a sign is no
digit; two escaped periods are refused; and a letter of two bytes may be written as two escapes,
also in front of an escape that is cut off. -/
theorem ofUri_exact_periods :
    ofUri "%2e.%2E".toList = .ok ⟨[]⟩ ∧
      ofUri "%+F".toList = .error (.badEscape "%+F") ∧
      ofUri "%2E.".toList = .error (.illegalComponent "%2E.") ∧
      Percent.Spells "x".toList [120] ∧ Percent.Spells "é".toList [0xc3, 0xa9] ∧
      Percent.Spells "%c3%A9".toList [0xc3, 0xa9] ∧
      (ofUri ("x" ++ "é" ++ "%4").toList).toOption =
        (ofUri ("x" ++ "%c3%A9" ++ "%4").toList).toOption ∧
      (utf8 "é%41").length ≤ maxLength ∧
      Percent.decodeChecked (utf8 "é%41") 0 = .ok (some [0xc3, 0xa9, 65]) := by
  have spells {cs : List Char} {bs : Bytes} (h : Percent.decode cs = some bs) :
      Percent.Spells cs bs := Percent.decode_eq_some_iff.mp h
  obtain ⟨-, -, reads, signs, periods, alike, -, scanned⟩ := ofUri_exact
  have front : Percent.Spells "x".toList [120] := spells (by decide +kernel)
  have plain : Percent.Spells "é".toList [0xc3, 0xa9] := spells (by decide +kernel)
  have escaped : Percent.Spells "%c3%A9".toList [0xc3, 0xa9] := spells (by decide +kernel)
  have short : (utf8 "é%41").length ≤ maxLength := by decide +kernel
  refine ⟨?_, ?_, ?_, front, plain, escaped, alike _ _ _ _ _ _ front plain escaped, short, ?_⟩
  · exact (reads _ _).mpr ⟨[46, 46, 46], spells (by decide +kernel), by decide, by decide⟩
  · apply (signs _).mpr
    intro wellEscaped
    obtain ⟨high, low, rest, parts, ⟨d, shown⟩, -⟩ := wellEscaped [] ['+', 'F'] rfl
    cases parts
    cases Hex.digitValue?_eq_some_iff.mpr shown
  · exact (periods _).mpr (.inr (spells (by decide +kernel)))
  · exact (scanned _ _ short).mpr (spells (by decide +kernel))

end Component

end NamedData
