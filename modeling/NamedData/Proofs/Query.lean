/-
What stands behind a name in a URI.

A query or a fragment is cut off last, when blanks, scheme and authority are gone.  The earlier
steps do not reach past the mark that begins it, since that mark is no blank and stands in no scheme
and in no pair of slashes.  There is one exception: an authority ends at the next slash, and if that
comes only behind the mark, the mark is taken away as a part of the authority.

* `Name.path_append_mark` — what is left of a URI is what is left of the part before the mark;
* `Name.path_append_mark_of_isAuthority` — after an authority without a slash it is instead what is
  left of the query, as if the query were an authority itself;
* `Name.ofUri_append_query` — so a query adds nothing to a name, apart from that exception.
-/
import NamedData.Proofs.Uri

namespace NamedData

namespace Text

theorem afterStart?_eq_some_iff {front cs rest : List Char} :
    afterStart? front cs = some rest ↔ cs = front ++ rest := by
  induction front generalizing cs with
  | nil => simp [afterStart?]
  | cons p front ih =>
    cases cs with
    | nil => simp [afterStart?]
    | cons c cs =>
      by_cases h : p = c
      · simp [afterStart?, h, ih]
      · simp [afterStart?, h, Ne.symm h]

/-- A beginning without the mark is found in front of the mark or not at all. -/
theorem afterStart?_append_mark {front : List Char} {mark : Char} (h : mark ∉ front)
    (cs behind : List Char) :
    afterStart? front (cs ++ mark :: behind) =
      (afterStart? front cs).map (· ++ mark :: behind) := by
  induction front generalizing cs with
  | nil => rfl
  | cons p front ih =>
    rw [List.mem_cons, not_or] at h
    cases cs with
    | nil => simp [afterStart?, Ne.symm h.1]
    | cons c cs =>
      rw [List.cons_append, afterStart?, afterStart?]
      split
      · exact ih h.2 cs
      · rfl

/-- Behind a character that is no blank, trimming takes only the blanks at the end. -/
theorem trim_append_mark {mark : Char} (h : isBlank mark = false) {front : List Char}
    (start : trimStart front = front) (behind : List Char) :
    trim (front ++ mark :: behind) = front ++ mark :: (trimStart behind.reverse).reverse := by
  have turned : (front ++ mark :: behind).reverse = behind.reverse ++ mark :: front.reverse := by
    simp
  rw [trim, trimStart_append_cons h, start, turned, trimStart_append_cons h]
  simp

theorem trimStart_of_trim {cs : List Char} (h : trim cs = cs) : trimStart cs = cs := by
  have suffix : trimStart cs <:+ cs := List.dropWhile_suffix isBlank
  have back : (trimStart (trimStart cs).reverse).length ≤ (trimStart cs).length := by
    have := (List.dropWhile_suffix isBlank (l := (trimStart cs).reverse)).length_le
    rwa [List.length_reverse] at this
  have whole : (trim cs).length = (trimStart (trimStart cs).reverse).length := List.length_reverse
  rw [h] at whole
  exact suffix.eq_of_length (Nat.le_antisymm suffix.length_le (whole ▸ back))

end Text

namespace Name

variable {cs behind : List Char} {mark : Char}

/-- A query or a fragment begins with the mark. -/
def IsMark (mark : Char) : Prop := mark = '?' ∨ mark = '#'

theorem IsMark.not_isBlank (h : IsMark mark) : Text.isBlank mark = false := by
  rcases h with rfl | rfl <;> rfl

theorem withoutScheme_append_mark (hm : IsMark mark) :
    withoutScheme (cs ++ mark :: behind) = withoutScheme cs ++ mark :: behind := by
  have apart : mark ∉ ['n', 'd', 'n', ':'] := by
    rcases hm with rfl | rfl <;> decide
  rw [withoutScheme, withoutScheme, Text.afterStart?_append_mark apart]
  cases Text.afterStart? ['n', 'd', 'n', ':'] cs <;> rfl

/-- Nothing behind the mark counts, and the mark does not either. -/
theorem withoutQuery_append_mark (hm : IsMark mark) :
    withoutQuery (cs ++ mark :: behind) = withoutQuery cs := by
  have stop : withoutQuery (mark :: behind) = [] := by
    rcases hm with rfl | rfl <;> rfl
  rw [withoutQuery] at stop
  rw [withoutQuery, withoutQuery, List.takeWhile_append, stop, List.append_nil]
  split
  · rename_i all
    rw [(List.takeWhile_prefix _).eq_of_length all]
  · rfl

/-- An authority that a slash ends is taken away as it is without the query. -/
theorem withoutAuthority_append_mark (hm : IsMark mark)
    (ended : ∀ a, '/' ∉ a → cs ≠ ['/', '/'] ++ a) :
    withoutAuthority (cs ++ mark :: behind) = withoutAuthority cs ++ mark :: behind := by
  have apart : mark ∉ ['/', '/'] := by
    rcases hm with rfl | rfl <;> decide
  rw [withoutAuthority, withoutAuthority, Text.afterStart?_append_mark apart]
  cases after : Text.afterStart? ['/', '/'] cs with
  | none => rfl
  | some rest =>
    have slash : '/' ∈ rest := Decidable.byContradiction fun slashless =>
      ended rest slashless (Text.afterStart?_eq_some_iff.mp after)
    show (rest ++ mark :: behind).dropWhile (· ≠ '/') = _
    rw [List.dropWhile_append]
    split
    · -- everything would be dropped only if no slash were there
      rename_i dropped
      have front := List.takeWhile_append_dropWhile (p := fun c => decide (c ≠ '/')) (l := rest)
      rw [List.isEmpty_iff.mp dropped, List.append_nil] at front
      have all := List.all_takeWhile (p := fun c => decide (c ≠ '/')) (l := rest)
      rw [front, List.all_eq_true] at all
      exact absurd (all '/' slash) (by simp)
    · rfl

/-- An authority that no slash ends goes on through the query, up to the first slash there. -/
theorem withoutAuthority_through_mark (hm : IsMark mark) {a : List Char} (slashless : '/' ∉ a) :
    withoutAuthority (['/', '/'] ++ a ++ mark :: behind) = behind.dropWhile (· ≠ '/') := by
  have taken : ∀ c ∈ a ++ [mark], (decide (c ≠ '/')) = true := by
    intro c hc
    rcases List.mem_append.mp hc with hc | hc
    · have ne : c ≠ '/' := fun same => slashless (same ▸ hc)
      simp [ne]
    · rw [List.mem_singleton.mp hc]
      rcases hm with rfl | rfl <;> rfl
  show (a ++ mark :: behind).dropWhile (· ≠ '/') = _
  rw [List.append_cons, List.dropWhile_append_of_pos taken]

theorem path_append_mark (hm : IsMark mark) (trimmed : Text.trim cs = cs)
    (ended : ∀ a, '/' ∉ a → withoutScheme cs ≠ ['/', '/'] ++ a) :
    path (cs ++ mark :: behind) = path cs := by
  rw [path, Text.trim_append_mark hm.not_isBlank (Text.trimStart_of_trim trimmed),
    withoutScheme_append_mark hm, withoutAuthority_append_mark hm ended,
    withoutQuery_append_mark hm, path, trimmed]

/-- Behind an authority that no slash ends, the query is read as an authority would be. -/
theorem path_append_mark_of_authority (hm : IsMark mark) (trimmed : Text.trim cs = cs)
    {a : List Char} (slashless : '/' ∉ a) (authority : withoutScheme cs = ['/', '/'] ++ a) :
    path (cs ++ mark :: behind) = path (['/', '/'] ++ behind) := by
  have slash : Text.isBlank '/' = false := rfl
  have alone : Text.trim (['/', '/'] ++ behind) = _ :=
    @Text.trim_append_mark '/' slash ['/'] rfl behind
  rw [path, Text.trim_append_mark hm.not_isBlank (Text.trimStart_of_trim trimmed),
    withoutScheme_append_mark hm, authority, withoutAuthority_through_mark hm slashless, path,
    alone]
  rfl

/-! ### Names with a query or a fragment behind them -/

/-- The text is an authority, by itself or behind the scheme, and no slash ends it. -/
def IsAuthority (u : String) : Prop :=
  ∃ front ∈ ["//", "ndn://"], ∃ authority : String, '/' ∉ authority.toList ∧
    u = front ++ authority

theorem isAuthority_iff {u : String} :
    IsAuthority u ↔ ∃ a, '/' ∉ a ∧ withoutScheme u.toList = ['/', '/'] ++ a := by
  constructor
  · rintro ⟨front, hfront, authority, slashless, rfl⟩
    refine ⟨authority.toList, slashless, ?_⟩
    simp only [List.mem_cons, List.not_mem_nil, or_false] at hfront
    rcases hfront with rfl | rfl
    · rw [String.toList_append]
      rfl
    · rw [String.toList_append]
      rfl
  · rintro ⟨a, slashless, h⟩
    have slashless : '/' ∉ (String.ofList a).toList := by rwa [String.toList_ofList]
    rw [withoutScheme] at h
    cases scheme : Text.afterStart? ['n', 'd', 'n', ':'] u.toList with
    | none =>
      rw [scheme, Option.getD_none] at h
      refine ⟨"//", by simp, String.ofList a, slashless, ?_⟩
      rw [← String.toList_inj, h, String.toList_append, String.toList_ofList (l := a)]
      rfl
    | some rest =>
      rw [scheme, Option.getD_some] at h
      refine ⟨"ndn://", by simp, String.ofList a, slashless, ?_⟩
      rw [← String.toList_inj, Text.afterStart?_eq_some_iff.mp scheme, h, String.toList_append,
        String.toList_ofList (l := a)]
      rfl

instance (u : String) : Decidable (IsAuthority u) :=
  decidable_of_iff
    ((Text.afterStart? ['/', '/'] (withoutScheme u.toList)).any (fun a => '/' ∉ a) = true) <| by
      simp only [isAuthority_iff, Option.any_eq_true, Text.afterStart?_eq_some_iff,
        decide_eq_true_eq, and_comm]

theorem ofUri_congr {s t : String} (h : path s.toList = path t.toList) : ofUri s = ofUri t := by
  rw [ofUri, ofUri, ofUriChars, ofUriChars, h]

theorem ofUri_of_path_nil {s : String} (h : path s.toList = []) : ofUri s = .ok {} := by
  rw [ofUri, ofUriChars, h]
  rfl

/-- An authority without a slash leaves no path. -/
theorem path_of_authority {a : List Char} (slashless : '/' ∉ a)
    (authority : withoutScheme (Text.trim cs) = ['/', '/'] ++ a) : path cs = [] := by
  have dropped : a.dropWhile (· ≠ '/') = [] := by
    have all : ∀ c ∈ a, decide (c ≠ '/') = true := by
      intro c hc
      have ne : c ≠ '/' := fun same => slashless (same ▸ hc)
      simp [ne]
    rw [← List.append_nil a, List.dropWhile_append_of_pos all]
    rfl
  rw [path, authority]
  show withoutQuery (a.dropWhile (· ≠ '/')) = []
  rw [dropped]
  rfl

/-- A query or a fragment behind a URI without blanks around it, whatever stands in it, leaves the
name, or the error, as it is.  An authority that no slash ends is the one exception: without a query
it reads as the empty name, and with one it reads as the query does in place of the authority, so
that only a query without a slash adds nothing. -/
theorem ofUri_append_query (u v : String) (trimmed : Text.trim u.toList = u.toList) :
    ∀ mark ∈ ["?", "#"],
      (¬ IsAuthority u ∨ '/' ∉ v.toList → ofUri (u ++ mark ++ v) = ofUri u) ∧
      (IsAuthority u → ofUri u = .ok {} ∧ ofUri (u ++ mark ++ v) = ofUri ("//" ++ v)) := by
  intro mark hmark
  obtain ⟨c, hc, chars⟩ : ∃ c, IsMark c ∧ (u ++ mark ++ v).toList = u.toList ++ c :: v.toList := by
    simp only [List.mem_cons, List.not_mem_nil, or_false] at hmark
    rcases hmark with rfl | rfl
    · exact ⟨'?', .inl rfl, by simp⟩
    · exact ⟨'#', .inr rfl, by simp⟩
  have inAuthority (h : IsAuthority u) :
      ofUri u = .ok {} ∧ ofUri (u ++ mark ++ v) = ofUri ("//" ++ v) := by
    obtain ⟨a, slashless, authority⟩ := isAuthority_iff.mp h
    constructor
    · exact ofUri_of_path_nil (path_of_authority slashless (by rw [trimmed, authority]))
    · apply ofUri_congr
      rw [chars, path_append_mark_of_authority hc trimmed slashless authority,
        String.toList_append]
      rfl
  refine ⟨fun h => ?_, inAuthority⟩
  by_cases authority : IsAuthority u
  · have plain := h.resolve_left (not_not_intro authority)
    rw [(inAuthority authority).1, (inAuthority authority).2]
    apply ofUri_of_path_nil
    -- read as an authority, the query has no slash to end it
    have trimmed : Text.trim ("//" ++ v).toList =
        ['/', '/'] ++ (Text.trimStart v.toList.reverse).reverse := by
      rw [String.toList_append]
      exact @Text.trim_append_mark '/' rfl ['/'] rfl v.toList
    refine path_of_authority (a := (Text.trimStart v.toList.reverse).reverse) ?_ ?_
    · intro slash
      have kept := (List.dropWhile_suffix Text.isBlank).mem (List.mem_reverse.mp slash)
      exact plain (List.mem_reverse.mp kept)
    · rw [trimmed]
      rfl
  · apply ofUri_congr
    rw [chars]
    apply path_append_mark hc trimmed
    intro a slashless same
    exact authority (isAuthority_iff.mpr ⟨a, slashless, same⟩)

/-- A query with slashes, periods, a bad escape and a blank in it. -/
theorem ofUri_append_query_escape :
    let u := "ndn://router:6363/a%20b"
    Text.trim u.toList = u.toList ∧ ¬ IsAuthority u ∧
      ofUri (u ++ "?" ++ "x=/../%G1 ") = .ok ⟨[⟨[97, 32, 98]⟩]⟩ := by
  intro u
  have trimmed : Text.trim u.toList = u.toList := by decide +kernel
  have path : ¬ IsAuthority u := by decide +kernel
  have same := (ofUri_append_query u "x=/../%G1 " trimmed "?" (by simp)).1 (.inl path)
  have read : ofUri u = .ok ⟨[⟨[97, 32, 98]⟩]⟩ := eq_ok_of_toOption (by decide +kernel)
  exact ⟨trimmed, path, same.trans read⟩

/-- The query of a URI with an authority and no path becomes the name. -/
theorem ofUri_append_query_authority :
    let u := "ndn://router"
    (∀ c ∈ u.toList, c ≠ '?' ∧ c ≠ '#') ∧ Text.trim u.toList = u.toList ∧
      ofUri (u ++ "?" ++ "/x") ≠ ofUri u := by
  intro u
  have plain : ofUri u = .ok {} := eq_ok_of_toOption (by decide +kernel)
  have queried : ofUri (u ++ "?" ++ "/x") = .ok ⟨[⟨[120]⟩]⟩ :=
    eq_ok_of_toOption (by decide +kernel)
  refine ⟨by simp [u], by decide +kernel, ?_⟩
  rw [plain, queried]
  simp

end Name

end NamedData
