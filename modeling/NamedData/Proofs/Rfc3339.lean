/-
A point in time is read back from its text, unless it lies in a leap second.

Every part that is written has a fixed number of digits, or is followed by something that is no
digit, so a reader that takes as many digits as it may have takes just that part.  Blanks and
missing digits, which the readers also accept, are never written.

* `readYear_yearChars`, `readPart_padded`, `readFraction_fractionChars` — the parts;
* `readDate_append`, `readTime_append` — the date and the time of day;
* `parse?_textZulu` — the whole.
-/
import NamedData.Time.Rfc3339
import NamedData.Proofs.Calendar
import NamedData.Proofs.Decimal

namespace NamedData

theorem Timestamp.ofUnix?_self (t : Timestamp) : ofUnix? t.seconds t.nanoseconds = some t :=
  dif_pos ⟨t.lower, t.upper, t.subsecond⟩

namespace Rfc3339

open Text

/-! ### Parts -/

section

variable {ds rest : List Char}

theorem isBlank_of_isDigit {c : Char} (h : c.isDigit = true) : isBlank c = false := by
  simp only [Char.isDigit, Bool.and_eq_true, decide_eq_true_eq, ge_iff_le, UInt32.le_iff_toNat_le]
    at h
  have low : 48 ≤ c.toNat := h.1
  have high : c.toNat ≤ 57 := h.2
  simp only [isBlank, Bool.or_eq_false_iff, Bool.and_eq_false_iff, decide_eq_false_iff_not,
    beq_eq_false_iff_ne]
  omega

/-- Nothing is trimmed where digits begin. -/
theorem trimStart_digits (digits : ∀ c ∈ ds, c.isDigit = true) (nonempty : ds ≠ []) :
    trimStart (ds ++ rest) = ds ++ rest := by
  cases ds with
  | nil => exact absurd rfl nonempty
  | cons d ds =>
    have noBlank := isBlank_of_isDigit (digits d List.mem_cons_self)
    simp [trimStart, noBlank]

theorem append_ne_cons {c : Char} (digits : ∀ c ∈ ds, c.isDigit = true) (nonempty : ds ≠ [])
    (other : c.isDigit = false) (after : List Char) : ds ++ rest ≠ c :: after := by
  cases ds with
  | nil => exact absurd rfl nonempty
  | cons d ds =>
    intro same
    have digit := digits d List.mem_cons_self
    rw [(List.cons.inj same).1, other] at digit
    cases digit

/-- As many digits as there may be are taken off, or as many as there are. -/
theorem readNumber_append (rest : List Char) (most : Nat) (digits : ∀ c ∈ ds, c.isDigit = true)
    (nonempty : ds ≠ []) (fits : ds.length = most ∨ ds.length ≤ most ∧ EndsDigits rest) :
    readNumber most (ds ++ rest) = some (digitsValue ds, rest) := by
  have taken : ((ds ++ rest).take most).takeWhile Char.isDigit = ds := by
    rcases fits with rfl | ⟨most, stop⟩
    · rw [List.take_left]
      simpa using takeWhile_isDigit_append digits (show EndsDigits [] from nofun)
    · rw [List.take_append, List.take_of_length_le most]
      refine takeWhile_isDigit_append digits fun c hc => ?_
      rw [List.head?_take] at hc
      split at hc
      · cases hc
      · exact stop c hc
  rw [readNumber, taken]
  simp [nonempty]

theorem readPart_padded (rest : List Char) {n least greatest : Nat}
    (range : least ≤ n ∧ n ≤ greatest) (small : n < 100) :
    readPart least greatest (padded 2 n ++ rest) = some (n, rest) := by
  have digits := isDigit_of_mem_padded 2 n
  have nonempty := padded_ne_nil 2 n
  rw [readPart, trimStart_digits digits nonempty,
    readNumber_append rest 2 digits nonempty (.inl (length_padded 1 small))]
  simp [digitsValue_padded, range]

theorem readMark_cons (mark : Char) (noBlank : isBlank mark = false) :
    readMark mark (mark :: rest) = some rest := by
  simp [readMark, trimStart, noBlank, afterStart?]

/-- A year is written with as many digits as it needs, and at least four. -/
theorem readYear_yearChars (year : Int) (stop : EndsDigits rest) :
    readYear (yearChars year ++ rest) = some (year, rest) := by
  have digits (n : Nat) := isDigit_of_mem_padded 4 n
  have nonempty := padded_ne_nil 4
  have signed (n : Nat) : readNumber (padded 4 n ++ rest).length (padded 4 n ++ rest) =
      some (n, rest) := by
    rw [readNumber_append rest _ (digits n) (nonempty n) (.inr ⟨by simp, stop⟩), digitsValue_padded]
  by_cases plain : 0 ≤ year ∧ year ≤ 9999
  · have four := length_padded 3 (n := year.toNat) (by omega)
    have read := readNumber_append rest 4 (digits _) (nonempty _) (.inl four)
    have back : (year.toNat : Int) = year := Int.toNat_of_nonneg plain.1
    rw [yearChars, if_pos plain, readYear, trimStart_digits (digits _) (nonempty _)]
    split
    · rename_i same
      exact absurd same (append_ne_cons (digits _) (nonempty _) rfl _)
    · rename_i same
      exact absurd same (append_ne_cons (digits _) (nonempty _) rfl _)
    · simp [read, digitsValue_padded, back]
  · rw [yearChars, if_neg plain]
    by_cases negative : year < 0
    · have back : -(year.natAbs : Int) = year := by omega
      have minus : trimStart ('-' :: (padded 4 year.natAbs ++ rest)) =
        '-' :: (padded 4 year.natAbs ++ rest) := rfl
      rw [if_pos negative, List.cons_append, readYear, minus]
      simp only [signed, Option.map_some, back]
    · have back : (year.natAbs : Int) = year := by omega
      have plus : trimStart ('+' :: (padded 4 year.natAbs ++ rest)) =
        '+' :: (padded 4 year.natAbs ++ rest) := rfl
      rw [if_neg negative, List.cons_append, readYear, plus]
      simp only [signed, Option.map_some, back]

/-- A fraction is written in groups of three digits. -/
theorem readFraction_fractionChars {n : Nat} (small : n < 10 ^ 9) (stop : EndsDigits rest)
    (noPeriod : rest.head? ≠ some '.') :
    readFraction (fractionChars n ++ rest) = some (n, rest) := by
  have written (width : Nat) {k : Nat} (hk : k < 10 ^ (width + 1)) (le : width + 1 ≤ 9)
      (value : k * 10 ^ (8 - width) = n) :
      readFraction ('.' :: padded (width + 1) k ++ rest) = some (n, rest) := by
    have digits := isDigit_of_mem_padded (width + 1) k
    have length := length_padded width hk
    have kept : (padded (width + 1) k).take 9 = padded (width + 1) k :=
      List.take_of_length_le (by omega)
    rw [List.cons_append, readFraction, takeWhile_isDigit_append digits stop,
      dropWhile_isDigit_append digits stop]
    simp [padded_ne_nil, kept, digitsValue_padded, length, value]
  rw [fractionChars]
  split
  · rename_i zero
    rw [List.nil_append, readFraction, zero]
    rintro after rfl
    exact noPeriod rfl
  split
  · exact written 2 (by omega) (by decide) (by omega)
  split
  · exact written 5 (by omega) (by decide) (by omega)
  · exact written 8 (by omega) (by decide) (by omega)

end

/-! ### The whole -/

/-- A date of the calendar is read back. -/
theorem readDate_append {date : Calendar.Date} (valid : Calendar.isValid date = true)
    (range : -262143 ≤ date.year ∧ date.year ≤ 262142) (rest : List Char) :
    readDate (yearChars date.year ++ '-' :: (padded 2 date.month ++ '-' ::
      (padded 2 date.day ++ rest))) = some (date, rest) := by
  have parts := valid
  simp only [Calendar.isValid, Bool.and_eq_true, decide_eq_true_eq] at parts
  obtain ⟨⟨⟨monthLow, monthHigh⟩, dayLow⟩, dayHigh⟩ := parts
  have longest := Calendar.daysInMonth_le date.year date.month
  have month (after : List Char) := readPart_padded after ⟨monthLow, monthHigh⟩ (by omega)
  have day := readPart_padded rest ⟨dayLow, Nat.le_trans dayHigh longest⟩ (by omega)
  rw [readDate, readYear_yearChars _ (endsDigits_cons rfl _)]
  simp [readMark_cons, show isBlank '-' = false from rfl, month, day, valid, range]

/-- A second of the day is read back with its fraction. -/
theorem readTime_append {second nanoseconds : Nat} (ofDay : second < 86400)
    (small : nanoseconds < 10 ^ 9) {rest : List Char} (stop : EndsDigits rest)
    (noPeriod : rest.head? ≠ some '.') :
    readTime (padded 2 (second / 3600) ++ ':' :: (padded 2 (second / 60 % 60) ++ ':' ::
      (padded 2 (second % 60) ++ (fractionChars nanoseconds ++ rest)))) =
      some (((second : Int), nanoseconds), rest) := by
  have hour : 0 ≤ second / 3600 ∧ second / 3600 ≤ 23 := by omega
  have minute : 0 ≤ second / 60 % 60 ∧ second / 60 % 60 ≤ 59 := by omega
  have sixtieth : 0 ≤ second % 60 ∧ second % 60 ≤ 60 := by omega
  have hours (after : List Char) := readPart_padded after hour (by omega)
  have minutes (after : List Char) := readPart_padded after minute (by omega)
  have seconds (after : List Char) := readPart_padded after sixtieth (by omega)
  have noLeap : second % 60 ≠ 60 := by omega
  simp [readTime, readMark_cons, show isBlank ':' = false from rfl, hours, minutes, seconds,
    readFraction_fractionChars small stop noPeriod, noLeap]
  omega

/-- A point in time is read back from its text. -/
theorem parse?_textZulu {t : Timestamp} (noLeap : t.inLeapSecond = false) :
    parse? (textZulu t) = some t := by
  obtain ⟨days, hdays⟩ : ∃ d, d = t.seconds / 86400 := ⟨_, rfl⟩
  obtain ⟨second, hsecond⟩ : ∃ s, s = t.secondOfDay.toNat := ⟨_, rfl⟩
  have lower := t.lower
  have upper := t.upper
  have small : t.nanoseconds < 10 ^ 9 := by simpa [Timestamp.inLeapSecond] using noLeap
  have whole : days * 86400 + second = t.seconds ∧ second < 86400 := by
    rw [hsecond, hdays, Timestamp.secondOfDay]
    omega
  have low : -96465292 ≤ days := by omega
  have high : days ≤ 95026236 := by omega
  have years := Calendar.year_dateOfDays low high
  have date := readDate_append (Calendar.isValid_dateOfDays days) years
  have zone : EndsDigits ['Z'] := endsDigits_cons rfl []
  have time := readTime_append whole.2 small zone (by decide)
  have offset : readOffset ['Z'] = some (0, []) := rfl
  have nothing : trimStart [] = [] := rfl
  rw [parse?, textZulu, String.toList_ofList, chars, ofChars?]
  simp only [noLeap, ← hsecond, ← hdays, Nat.mod_eq_of_lt small, List.append_assoc,
    List.cons_append, List.nil_append]
  simp [date, time, offset, nothing, Calendar.daysOfDate_dateOfDays, whole.1, t.ofUnix?_self]

end Rfc3339

end NamedData
