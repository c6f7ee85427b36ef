/-
JSON text that was printed is read back as the value that it was printed from.

Each reader undoes one part of the printer, with anything behind that a printer can put there.  No
blanks are printed, and what is printed of a value is never one of the brackets that end a list, so
the readers of lists go along with the printers of lists.  A number ends where a comma or a bracket
follows; a string ends at its quote, since the quotes in it are escaped.

* `Json.Readable` — values that nest no deeper than a limit and hold naturals of 64 bits only;
* `Json.readString_stringChars`, `Json.readNumber_decimal` — strings and numbers;
* `Json.readValue_chars` — all values, with what may follow them;
* `Json.parse?_text` — whole texts.
-/
import NamedData.Json.Printer
import NamedData.Json.Reader
import NamedData.Proofs.Decimal

namespace NamedData.Json

/-- The value nests arrays and objects no deeper than the limit, its naturals fit 64 bits, and it
holds no number that is kept as it was written. -/
inductive Readable : Nat → Json → Prop where
  | null {depth : Nat} : Readable depth .null
  | bool {depth : Nat} (b : Bool) : Readable depth (.bool b)
  | natural {depth n : Nat} (h : n < 2 ^ 64) : Readable depth (.natural n)
  | string {depth : Nat} (s : String) : Readable depth (.string s)
  | array {depth : Nat} {items : List Json} (h : ∀ j ∈ items, Readable depth j) :
    Readable (depth + 1) (.array items)
  | object {depth : Nat} {members : List (String × Json)} (h : ∀ m ∈ members, Readable depth m.2) :
    Readable (depth + 1) (.object members)

theorem Readable.mono {depth more : Nat} {j : Json} (h : Readable depth j) (le : depth ≤ more) :
    Readable more j := by
  induction h generalizing more with
  | null => exact .null
  | bool b => exact .bool b
  | natural h => exact .natural h
  | string s => exact .string s
  | array h ih =>
    obtain ⟨more, rfl⟩ : ∃ k, more = k + 1 := ⟨more - 1, by omega⟩
    exact .array fun j hj => ih j hj (by omega)
  | object h ih =>
    obtain ⟨more, rfl⟩ : ∃ k, more = k + 1 := ⟨more - 1, by omega⟩
    exact .object fun m hm => ih m hm (by omega)

/-! ### Strings -/

/-- A reading with one more character in front. -/
def consRead (c : Char) (read : Option (List Char × List Char)) :
    Option (List Char × List Char) := do
  let (cs, after) ← read
  return (c :: cs, after)

section

variable {c : Char} (rest : List Char)

theorem readString_codeUnit {n : Nat} {a b c d : Char} (digits : fourDigits? a b c d = some n)
    (notHigh : isHighSurrogate n = false) (notLow : isLowSurrogate n = false) :
    readString ('\\' :: 'u' :: a :: b :: c :: d :: rest) =
      consRead (Char.ofNat n) (readString rest) := by
  -- what follows may be an escape too, which is not looked at since this is no surrogate
  rw [readString.eq_def]
  split
  · rename_i same
    cases same
  · rename_i same
    cases same
  · rename_i same
    cases same
    simp [digits, notHigh, notLow, consRead]
  · rename_i same
    cases same
    simp [digits, notHigh, notLow, consRead]
  · rename_i other same
    cases same
    exact absurd rfl (other a b c d rest rfl)
  · rename_i other same
    cases same
    exact absurd rfl (other 'u' (a :: b :: c :: d :: rest) rfl)

theorem readString_control (control : c.toNat < 32) :
    readString ('\\' :: 'u' :: '0' :: '0' :: Hex.lowerDigit (c.toNat / 16) ::
      Hex.lowerDigit (c.toNat % 16) :: rest) = consRead c (readString rest) := by
  have zero : Hex.digitValue? '0' = some 0 := rfl
  have high := Hex.digitValue_lowerDigit (c.toNat / 16) (by omega)
  have low := Hex.digitValue_lowerDigit (c.toNat % 16) (by omega)
  have whole : c.toNat / 16 * 16 + c.toNat % 16 = c.toNat := Nat.div_add_mod' _ _
  have digits : fourDigits? '0' '0' (Hex.lowerDigit (c.toNat / 16))
      (Hex.lowerDigit (c.toNat % 16)) = some c.toNat := by
    simp [fourDigits?, zero, high, low, whole]
  have notHigh : isHighSurrogate c.toNat = false := by
    simp only [isHighSurrogate, Bool.and_eq_false_iff, decide_eq_false_iff_not]
    omega
  have notLow : isLowSurrogate c.toNat = false := by
    simp only [isLowSurrogate, Bool.and_eq_false_iff, decide_eq_false_iff_not]
    omega
  rw [readString_codeUnit rest digits notHigh notLow, Char.ofNat_toNat]

theorem readString_plain (noQuote : c ≠ '"') (noEscape : c ≠ '\\') (printed : ¬c.toNat < 32) :
    readString (c :: rest) = consRead c (readString rest) := by
  rw [readString]
  · simp [noEscape, printed, consRead]
  all_goals grind

theorem readString_letter {e : Char} (notUnicode : e ≠ 'u') (escapes : unescape? e = some c) :
    readString ('\\' :: e :: rest) = consRead c (readString rest) := by
  rw [readString]
  · simp [escapes, consRead]
  all_goals grind

/-- A character is read back from the way in which it stands in a string. -/
theorem readString_escapeChar (c : Char) :
    readString (escapeChar c ++ rest) = consRead c (readString rest) := by
  rw [escapeChar]
  split
  · subst c
    exact readString_letter rest (by decide) rfl
  split
  · subst c
    exact readString_letter rest (by decide) rfl
  split
  · subst c
    exact readString_letter rest (by decide) rfl
  split
  · subst c
    exact readString_letter rest (by decide) rfl
  split
  · subst c
    exact readString_letter rest (by decide) rfl
  split
  · subst c
    exact readString_letter rest (by decide) rfl
  split
  · subst c
    exact readString_letter rest (by decide) rfl
  split
  · rename_i control
    exact readString_control rest control
  · rename_i noQuote noEscape _ _ _ _ _ printed
    exact readString_plain rest noQuote noEscape printed

/-- The characters of a string are read back up to its closing quote. -/
theorem readString_append (cs : List Char) :
    readString (cs.flatMap escapeChar ++ '"' :: rest) = some (cs, rest) := by
  induction cs with
  | nil => rfl
  | cons c cs ih =>
    rw [List.flatMap_cons, List.append_assoc, readString_escapeChar, ih]
    rfl

end

/-! ### Numbers -/

/-- The text is at its end or goes on with a comma or a closing bracket. -/
def Ended (rest : List Char) : Prop := ∀ c ∈ rest.head?, c = ',' ∨ c = ']' ∨ c = '\x7d'

section

variable {rest : List Char}

theorem Ended.endsDigits (h : Ended rest) : Text.EndsDigits rest := by
  intro c hc
  rcases h c hc with rfl | rfl | rfl
  · rfl
  · rfl
  · rfl

theorem readFraction_of_ended (h : Ended rest) : readFraction rest = some (none, rest) := by
  cases rest with
  | nil => rfl
  | cons c rest =>
    rcases h c rfl with rfl | rfl | rfl
    · rfl
    · rfl
    · rfl

theorem readExponent_of_ended (h : Ended rest) : readExponent rest = some (none, rest) := by
  cases rest with
  | nil => rfl
  | cons c rest =>
    rcases h c rfl with rfl | rfl | rfl
    · rfl
    · rfl
    · rfl

theorem skipBlanks_of_ended (h : Ended rest) : skipBlanks rest = rest := by
  cases rest with
  | nil => rfl
  | cons c rest =>
    rcases h c rfl with rfl | rfl | rfl
    · rfl
    · rfl
    · rfl

/-- A natural number of 64 bits is read back from its digits. -/
theorem readNumber_decimal {n : Nat} (small : n < 2 ^ 64) (ended : Ended rest) :
    readNumber (Text.decimal n ++ rest) = some (.natural n, rest) := by
  have digits := Text.isDigit_of_mem_decimal (n := n)
  have nonempty := Text.decimal_ne_nil n
  have read := Text.readDigits_append digits nonempty ended.endsDigits
  cases front : Text.decimal n with
  | nil => exact absurd front nonempty
  | cons d ds =>
    have unsigned : d ≠ '-' := by
      rintro rfl
      have := digits '-' (by simp [front])
      cases this
    have noZero : d = '0' → ds = [] := by
      intro zero
      by_cases none : n = 0
      · subst none
        rw [Text.decimal] at front
        simpa using (List.cons.inj front).2.symm
      · have := Text.head_decimal none
        simp [front, zero] at this
    have value := Text.digitsValue_decimal n
    rw [front] at read value
    rw [List.cons_append] at read ⊢
    rw [readNumber]
    · simpa [read, readFraction_of_ended ended, readExponent_of_ended ended, value, small]
        using noZero
    · intro after same
      exact unsigned (List.cons.inj same).1

end

/-! ### Values -/

/-- The value is read back from its text, with anything behind that may follow a value. -/
def IsRead (depth : Nat) (j : Json) : Prop :=
  ∀ fuel rest, 2 * j.chars.length ≤ fuel → Ended rest →
    readValue fuel (depth + 1) (j.chars ++ rest) = some (j, rest)

/-- What a value is printed as begins with neither a blank nor a bracket that ends a list. -/
def Opens (cs : List Char) : Prop := ∃ c rest, cs = c :: rest ∧ isBlank c = false ∧ c ≠ ']'

theorem opens_chars {depth : Nat} {j : Json} (h : Readable depth j) : Opens j.chars := by
  cases h with
  | null => exact ⟨_, _, rfl, rfl, by decide⟩
  | bool b => cases b <;> exact ⟨_, _, rfl, rfl, by decide⟩
  | @natural _ n h =>
    have digits := Text.isDigit_of_mem_decimal (n := n)
    rw [chars]
    cases front : Text.decimal n with
    | nil => exact absurd front (Text.decimal_ne_nil n)
    | cons d ds =>
      have digit := digits d (by simp [front])
      refine ⟨d, ds, rfl, ?_, ?_⟩
      · refine Bool.eq_false_iff.mpr fun blank => ?_
        simp only [isBlank, Bool.or_eq_true, decide_eq_true_eq] at blank
        rcases blank with ((rfl | rfl) | rfl) | rfl <;> cases digit
      · rintro rfl
        cases digit
  | string s => exact ⟨_, _, rfl, rfl, by decide⟩
  | array h => exact ⟨_, _, rfl, rfl, by decide⟩
  | object h => exact ⟨_, _, rfl, rfl, by decide⟩

section

variable {cs : List Char}

theorem skipBlanks_append (h : Opens cs) (rest : List Char) :
    skipBlanks (cs ++ rest) = cs ++ rest := by
  obtain ⟨c, cs, rfl, noBlank, -⟩ := h
  simp [skipBlanks, noBlank]

end

section

variable {depth : Nat} {items : List Json} {members : List (String × Json)}

theorem ended_moreItemChars (items : List Json) (rest : List Char) :
    Ended (moreItemChars items ++ rest) := by
  cases items <;> simp [moreItemChars, Ended]

theorem ended_moreMemberChars (members : List (String × Json)) (rest : List Char) :
    Ended (moreMemberChars members ++ rest) := by
  cases members <;> simp [moreMemberChars, Ended]

theorem readMoreItems_append (h : ∀ j ∈ items, Opens j.chars ∧ IsRead depth j) (fuel : Nat)
    (rest : List Char) (enough : 2 * (moreItemChars items).length ≤ fuel) :
    readMoreItems fuel (depth + 1) (moreItemChars items ++ rest) = some (items, rest) := by
  induction items generalizing fuel with
  | nil =>
    simp only [moreItemChars, List.length_singleton] at enough
    obtain ⟨fuel, rfl⟩ := Nat.exists_eq_add_one_of_ne_zero (n := fuel) (by omega)
    simp [moreItemChars, readMoreItems]
  | cons j items ih =>
    simp only [moreItemChars, List.length_cons, List.length_append] at enough
    obtain ⟨fuel, rfl⟩ := Nat.exists_eq_add_one_of_ne_zero (n := fuel) (by omega)
    obtain ⟨opens, reads⟩ := h j List.mem_cons_self
    have ended := ended_moreItemChars items rest
    have first := reads fuel (moreItemChars items ++ rest) (by omega) ended
    have others := ih (fun i hi => h i (List.mem_cons_of_mem j hi)) fuel (by omega)
    have skip := skipBlanks_append opens (moreItemChars items ++ rest)
    simp [moreItemChars, readMoreItems, skip, first, skipBlanks_of_ended ended, others]

theorem readItems_append (h : ∀ j ∈ items, Opens j.chars ∧ IsRead depth j) (fuel : Nat)
    (rest : List Char) (enough : 2 * (itemChars items).length ≤ fuel) :
    readItems fuel (depth + 1) (itemChars items ++ rest) = some (items, rest) := by
  cases items with
  | nil =>
    simp only [itemChars, List.length_singleton] at enough
    obtain ⟨fuel, rfl⟩ := Nat.exists_eq_add_one_of_ne_zero (n := fuel) (by omega)
    simp [itemChars, readItems]
  | cons j items =>
    simp only [itemChars, List.length_append] at enough
    obtain ⟨⟨c, cs, front, noBlank, noBracket⟩, reads⟩ := h j List.mem_cons_self
    have positive : 0 < j.chars.length := by simp [front]
    have closes : 0 < (moreItemChars items).length := by cases items <;> simp [moreItemChars]
    obtain ⟨fuel, rfl⟩ := Nat.exists_eq_add_one_of_ne_zero (n := fuel) (by omega)
    have ended := ended_moreItemChars items rest
    have first := reads fuel (moreItemChars items ++ rest) (by omega) ended
    have others := readMoreItems_append (fun i hi => h i (List.mem_cons_of_mem j hi)) fuel rest
      (by omega)
    rw [front] at first
    rw [itemChars, List.append_assoc, front, List.cons_append, readItems]
    · rw [← List.cons_append, first]
      simp [skipBlanks_of_ended ended, others]
    · intro after same
      exact noBracket (List.cons.inj same).1

theorem skipBlanks_itemChars (h : ∀ j ∈ items, Opens j.chars) (rest : List Char) :
    skipBlanks (itemChars items ++ rest) = itemChars items ++ rest := by
  cases items with
  | nil => rfl
  | cons j items =>
    rw [itemChars, List.append_assoc]
    exact skipBlanks_append (h j List.mem_cons_self) _

theorem readMember_append {v : Json} (opens : Opens v.chars) (reads : IsRead depth v) (k : String)
    (fuel : Nat) {rest : List Char} (enough : 2 * v.chars.length < fuel) (ended : Ended rest) :
    readMember fuel (depth + 1) (stringChars k ++ ':' :: (v.chars ++ rest)) =
      some ((k, v), rest) := by
  obtain ⟨fuel, rfl⟩ := Nat.exists_eq_add_one_of_ne_zero (n := fuel) (by omega)
  have name := readString_append (':' :: (v.chars ++ rest)) k.toList
  have value := reads fuel rest (by omega) ended
  have colon : skipBlanks (':' :: (v.chars ++ rest)) = ':' :: (v.chars ++ rest) := rfl
  simp [stringChars, readMember, name, colon, skipBlanks_append opens, value]

theorem readMoreMembers_append (h : ∀ m ∈ members, Opens m.2.chars ∧ IsRead depth m.2)
    (fuel : Nat) (rest : List Char) (enough : 2 * (moreMemberChars members).length ≤ fuel) :
    readMoreMembers fuel (depth + 1) (moreMemberChars members ++ rest) = some (members, rest) := by
  induction members generalizing fuel with
  | nil =>
    simp only [moreMemberChars, List.length_singleton] at enough
    obtain ⟨fuel, rfl⟩ := Nat.exists_eq_add_one_of_ne_zero (n := fuel) (by omega)
    simp [moreMemberChars, readMoreMembers]
  | cons m members ih =>
    obtain ⟨k, v⟩ := m
    simp only [moreMemberChars, List.length_cons, List.length_append] at enough
    obtain ⟨fuel, rfl⟩ := Nat.exists_eq_add_one_of_ne_zero (n := fuel) (by omega)
    obtain ⟨opens, reads⟩ : Opens v.chars ∧ IsRead depth v := h (k, v) List.mem_cons_self
    have ended := ended_moreMemberChars members rest
    have first := readMember_append opens reads k fuel (by omega) ended
    have others := ih (fun m hm => h m (List.mem_cons_of_mem _ hm)) fuel (by omega)
    have skip (cs : List Char) : skipBlanks (stringChars k ++ cs) = stringChars k ++ cs := rfl
    simp [moreMemberChars, readMoreMembers, skip, first, skipBlanks_of_ended ended, others]

theorem readMembers_append (h : ∀ m ∈ members, Opens m.2.chars ∧ IsRead depth m.2) (fuel : Nat)
    (rest : List Char) (enough : 2 * (memberChars members).length ≤ fuel) :
    readMembers fuel (depth + 1) (memberChars members ++ rest) = some (members, rest) := by
  cases members with
  | nil =>
    simp only [memberChars, List.length_singleton] at enough
    obtain ⟨fuel, rfl⟩ := Nat.exists_eq_add_one_of_ne_zero (n := fuel) (by omega)
    simp [memberChars, readMembers]
  | cons m members =>
    obtain ⟨k, v⟩ := m
    simp only [memberChars, List.length_cons, List.length_append] at enough
    obtain ⟨fuel, rfl⟩ := Nat.exists_eq_add_one_of_ne_zero (n := fuel) (by omega)
    obtain ⟨opens, reads⟩ : Opens v.chars ∧ IsRead depth v := h (k, v) List.mem_cons_self
    have ended := ended_moreMemberChars members rest
    have first := readMember_append opens reads k fuel (by omega) ended
    have others := readMoreMembers_append (fun m hm => h m (List.mem_cons_of_mem _ hm)) fuel rest
      (by omega)
    rw [memberChars, List.append_assoc, List.append_assoc, List.cons_append, readMembers]
    · rw [first]
      simp [skipBlanks_of_ended ended, others]
    · simp [stringChars]

theorem skipBlanks_memberChars (rest : List Char) :
    skipBlanks (memberChars members ++ rest) = memberChars members ++ rest := by
  cases members <;> rfl

end

theorem readValue_natural {n : Nat} (small : n < 2 ^ 64) (fuel depth : Nat) {rest : List Char}
    (ended : Ended rest) :
    readValue (fuel + 1) depth (Text.decimal n ++ rest) = some (.natural n, rest) := by
  have digits := Text.isDigit_of_mem_decimal (n := n)
  have read := readNumber_decimal small ended
  cases front : Text.decimal n with
  | nil => exact absurd front (Text.decimal_ne_nil n)
  | cons d ds =>
    have digit := digits d (by simp [front])
    have other {c : Char} (h : c.isDigit = false) : d ≠ c := by
      rintro rfl
      rw [digit] at h
      cases h
    rw [front, List.cons_append] at read
    rw [List.cons_append, readValue, if_neg (other rfl), if_neg (other rfl), if_neg (other rfl)]
    split
    · rename_i same
      exact absurd (List.cons.inj same).1 (other rfl)
    · rename_i same
      exact absurd (List.cons.inj same).1 (other rfl)
    · rename_i same
      exact absurd (List.cons.inj same).1 (other rfl)
    · exact read

/-- A value is read back from its text, whatever may follow it. -/
theorem readValue_chars {depth : Nat} {j : Json} (h : Readable depth j) : IsRead depth j := by
  -- on how the value is built; the readers of lists are given what is known of their items
  induction h with
  | null =>
    intro fuel rest enough ended
    simp only [chars, List.length_cons] at enough
    obtain ⟨fuel, rfl⟩ := Nat.exists_eq_add_one_of_ne_zero (n := fuel) (by omega)
    simp [chars, readValue]
  | bool b =>
    intro fuel rest enough ended
    cases b <;>
    · simp only [chars, List.length_cons] at enough
      obtain ⟨fuel, rfl⟩ := Nat.exists_eq_add_one_of_ne_zero (n := fuel) (by omega)
      simp [chars, readValue]
  | @natural _ n h =>
    intro fuel rest enough ended
    have nonempty := List.length_pos_iff.mpr (Text.decimal_ne_nil n)
    rw [chars] at enough ⊢
    obtain ⟨fuel, rfl⟩ := Nat.exists_eq_add_one_of_ne_zero (n := fuel) (by omega)
    exact readValue_natural h fuel _ ended
  | string s =>
    intro fuel rest enough ended
    simp only [chars, stringChars, List.cons_append, List.length_cons] at enough
    obtain ⟨fuel, rfl⟩ := Nat.exists_eq_add_one_of_ne_zero (n := fuel) (by omega)
    have read := readString_append rest s.toList
    simp [chars, stringChars, readValue, read]
  | @array depth items h ih =>
    intro fuel rest enough ended
    simp only [chars, List.length_cons] at enough
    obtain ⟨fuel, rfl⟩ := Nat.exists_eq_add_one_of_ne_zero (n := fuel) (by omega)
    have opens : ∀ j ∈ items, Opens j.chars := fun j hj => opens_chars (h j hj)
    have read := readItems_append (fun j hj => ⟨opens j hj, ih j hj⟩) fuel rest (by omega)
    simp [chars, readValue, skipBlanks_itemChars opens, read]
  | @object depth members h ih =>
    intro fuel rest enough ended
    simp only [chars, List.length_cons] at enough
    obtain ⟨fuel, rfl⟩ := Nat.exists_eq_add_one_of_ne_zero (n := fuel) (by omega)
    have read := readMembers_append (fun m hm => ⟨opens_chars (h m hm), ih m hm⟩) fuel rest
      (by omega)
    simp [chars, readValue, skipBlanks_memberChars, read]

/-- The text of a value that nests less deep than the reader allows is read back as the value. -/
theorem parse?_text {depth : Nat} {j : Json} (h : Readable depth j) (shallow : depth < depthLimit) :
    parse? j.text = some j := by
  obtain ⟨more, limit⟩ : ∃ more, depthLimit = depth + more + 1 := ⟨depthLimit - depth - 1, by omega⟩
  have read := readValue_chars (h.mono (Nat.le_add_right depth more)) (3 * j.chars.length + 3) []
    (by omega) (by simp [Ended])
  have skip := skipBlanks_append (opens_chars h) []
  rw [List.append_nil] at read skip
  rw [parse?, text, String.toList_ofList, ofChars?, skip, limit, read]
  rfl

end NamedData.Json
