/-
The text of an exclude filter determines its entries, also inside the text of a packet.

A written component has neither a comma nor a star in it and is never empty.  So the commas of a
filter's text are the ones between its entries, a star is an open range, and only the filter without
entries has no text.  Nor does the text have a question mark, an ampersand or an equals sign, which
is why the parameters of a packet come apart again where they were put together.

* `Exclude.splitOn_uriChars` — between the commas stand the written entries;
* `parameters_injective` — parameters whose names and values are plain come apart again;
* `LegacyHint.text_injective` — what the text of a hint shows;
* `Exclude.uri_unambiguous` — all of it together.
-/
import Mathlib.Tactic.SplitIfs
import NamedData.Proofs.Uri
import NamedData.Proofs.Decimal

namespace NamedData

/-! ### The characters of components -/

theorem Percent.mem_of_isWritten {c : Char} (h : isWritten c = true) :
    c.isAlphanum = true ∨ c ∈ ['-', '.', '_', '~', '%'] := by
  have table : ∀ n < 128, isWritten (Char.ofNat n) = true →
      (Char.ofNat n).isAlphanum = true ∨ Char.ofNat n ∈ ['-', '.', '_', '~', '%'] := by
    decide +kernel
  have ascii : c.toNat < 128 := by
    simp only [isWritten, Bool.or_eq_true, Bool.and_eq_true, beq_iff_eq, decide_eq_true_eq] at h
    omega
  have shown := table c.toNat ascii
  rw [Char.ofNat_toNat] at shown
  exact shown h

theorem Component.uriChars_injective {c d : Component} (h : c.uriChars = d.uriChars) : c = d := by
  have read := ofUri_uriChars c
  rw [h, ofUri_uriChars] at read
  exact (Except.ok.inj read).symm

/-! ### The entries of a filter -/

theorem Text.mem_intercalate {separator c : Char} {words : List (List Char)}
    (h : c ∈ [separator].intercalate words) : c = separator ∨ ∃ word ∈ words, c ∈ word := by
  induction words with
  | nil => cases h
  | cons word words ih =>
    cases words with
    | nil =>
      rw [List.intercalate_singleton] at h
      exact .inr ⟨word, List.mem_cons_self, h⟩
    | cons next words =>
      rw [List.intercalate_cons_cons, List.mem_append, List.mem_append] at h
      rcases h with (first | between) | others
      · exact .inr ⟨word, List.mem_cons_self, first⟩
      · exact .inl (List.mem_singleton.mp between)
      · exact (ih others).imp_right fun ⟨w, hw, inside⟩ => ⟨w, List.mem_cons_of_mem word hw, inside⟩

namespace Exclude

theorem isWritten_of_mem_entryChars {e : ExcludeEntry} {c : Char} (h : c ∈ entryChars e) :
    Percent.isWritten c = true ∨ c = '*' := by
  cases e with
  | component d => exact .inl (Component.isWritten_of_mem_uriChars h)
  | any => exact .inr (List.mem_singleton.mp h)

theorem comma_not_mem_entryChars (e : ExcludeEntry) : ',' ∉ entryChars e := by
  intro h
  rcases isWritten_of_mem_entryChars h with written | star
  · cases written
  · cases star

theorem entryChars_ne_nil (e : ExcludeEntry) : entryChars e ≠ [] := by
  cases e with
  | component c => exact c.uriChars_ne_nil
  | any => exact List.cons_ne_nil _ _

theorem star_ne_uriChars (c : Component) : ['*'] ≠ c.uriChars := by
  intro same
  have star : '*' ∈ c.uriChars := by
    rw [← same]
    exact List.mem_singleton_self _
  cases Component.isWritten_of_mem_uriChars star

theorem entryChars_injective (d e : ExcludeEntry) (h : entryChars d = entryChars e) : d = e := by
  cases d with
  | component c =>
    cases e with
    | component c' => rw [Component.uriChars_injective h]
    | any => exact absurd h.symm (star_ne_uriChars c)
  | any =>
    cases e with
    | component c => exact absurd h (star_ne_uriChars c)
    | any => rfl

/-- Between the commas of a filter's text stand its entries, each written by itself. -/
theorem splitOn_uriChars {x : Exclude} (h : x.entries ≠ []) :
    x.uriChars.splitOn ',' = x.entries.map entryChars := by
  refine List.splitOn_intercalate ',' ?_ (mt List.map_eq_nil_iff.mp h)
  intro written hw
  obtain ⟨e, -, rfl⟩ := List.mem_map.mp hw
  exact comma_not_mem_entryChars e

theorem uriChars_eq_nil_iff {x : Exclude} : x.uriChars = [] ↔ x.entries = [] := by
  constructor
  · intro none
    refine Decidable.byContradiction fun some => ?_
    -- the one piece of no text is no text, and no entry is written as that
    have pieces := splitOn_uriChars some
    rw [none, List.splitOn_nil] at pieces
    have empty : [] ∈ x.entries.map entryChars := by
      rw [← pieces]
      exact List.mem_singleton_self _
    obtain ⟨e, -, he⟩ := List.mem_map.mp empty
    exact entryChars_ne_nil e he
  · intro none
    rw [uriChars, none]
    rfl

theorem entries_eq_of_uri_eq {x y : Exclude} (h : x.uri = y.uri) : x.entries = y.entries := by
  have same : x.uriChars = y.uriChars := String.ofList_injective h
  by_cases none : x.entries = []
  · have noText := uriChars_eq_nil_iff.mpr none
    rw [same, uriChars_eq_nil_iff] at noText
    rw [none, noText]
  · have some : y.entries ≠ [] := by
      rwa [ne_eq, ← uriChars_eq_nil_iff, ← same, uriChars_eq_nil_iff]
    have written := splitOn_uriChars none
    rw [same, splitOn_uriChars some] at written
    exact ((List.map_inj_right entryChars_injective).mp written).symm

theorem mem_uriChars {x : Exclude} {c : Char} (h : c ∈ x.uriChars) :
    Percent.isWritten c = true ∨ c ∈ [',', '*'] := by
  rcases Text.mem_intercalate h with rfl | ⟨written, hw, inside⟩
  · simp
  · obtain ⟨e, -, rfl⟩ := List.mem_map.mp hw
    rcases isWritten_of_mem_entryChars inside with written | rfl
    · exact .inl written
    · simp

end Exclude

/-! ### The parameters of a packet's text -/

/-- A text with none of the characters that parameters are put together with. -/
def PlainText (s : String) : Prop := ∀ c ∈ ['?', '&', '='], c ∉ s.toList

instance (s : String) : Decidable (PlainText s) :=
  List.decidableBAll (· ∉ s.toList) ['?', '&', '=']

theorem PlainText.of_forall {s : String}
    (h : ∀ c ∈ s.toList, Percent.isWritten c = true ∨ c ∈ [',', '*']) : PlainText s := by
  intro mark hmark inside
  simp only [List.mem_cons, List.not_mem_nil, or_false] at hmark
  rcases hmark with rfl | rfl | rfl <;> exact absurd (h _ inside) (by decide)

theorem Exclude.plainText_uri (x : Exclude) : PlainText x.uri := by
  apply PlainText.of_forall
  intro c hc
  rw [uri, String.toList_ofList] at hc
  exact mem_uriChars hc

theorem Text.plainText_wordText (n : UInt64) : PlainText (wordText n) := by
  intro mark hmark inside
  rw [wordText, natText, String.toList_ofList] at inside
  have digit := isDigit_of_mem_decimal mark inside
  simp only [List.mem_cons, List.not_mem_nil, or_false] at hmark
  rcases hmark with rfl | rfl | rfl <;> cases digit

theorem Text.wordText_injective {m n : UInt64} (h : wordText m = wordText n) : m = n := by
  have digits : decimal m.toNat = decimal n.toNat := String.ofList_injective h
  have values := digitsValue_decimal m.toNat
  rw [digits, digitsValue_decimal] at values
  exact UInt64.toNat_inj.mp values.symm

/-- A parameter as it is written: its name, an equals sign and its value. -/
def parameterChars (p : String × String) : List Char := p.1.toList ++ '=' :: p.2.toList

/-- The name and the value of the parameter are plain. -/
def PlainParameter (p : String × String) : Prop := PlainText p.1 ∧ PlainText p.2

theorem toList_parameters_cons (p : String × String) (ps : List (String × String)) :
    (parameters (p :: ps)).toList =
      '?' :: (parameterChars p ++ ps.flatMap fun q => '&' :: parameterChars q) := by
  simp [parameters, parameterChars, String.toList_join, List.flatMap_map]

theorem ampersand_not_mem_parameterChars {p : String × String} (h : PlainParameter p) :
    '&' ∉ parameterChars p := by
  have name := h.1 '&' (by simp)
  have value := h.2 '&' (by simp)
  simp [parameterChars, name, value]

theorem pieces_parameterChars {p : String × String} (h : PlainParameter p) :
    Text.pieces '=' (parameterChars p) = [p.1.toList, p.2.toList] := by
  have name := h.1 '=' (by simp)
  have value := h.2 '=' (by simp)
  rw [parameterChars, Text.pieces_append_cons name, Text.pieces_of_not_mem value]

/-- Plain parameters come apart again where they were put together. -/
theorem pieces_parameters {p : String × String} {ps : List (String × String)}
    (h : ∀ q ∈ p :: ps, PlainParameter q) :
    (Text.pieces '&' ((parameters (p :: ps)).toList.drop 1)).map (Text.pieces '=') =
      (p :: ps).map fun q => [q.1.toList, q.2.toList] := by
  have first := ampersand_not_mem_parameterChars (h p List.mem_cons_self)
  have others : ∀ q ∈ ps, '&' ∉ parameterChars q := fun q hq =>
    ampersand_not_mem_parameterChars (h q (List.mem_cons_of_mem p hq))
  rw [toList_parameters_cons, List.drop_one, List.tail_cons, Text.pieces_flatMap others first,
    ← List.map_cons, List.map_map]
  exact List.map_congr_left fun q hq => pieces_parameterChars (h q hq)

theorem parameters_injective {ps qs : List (String × String)} (hp : ∀ p ∈ ps, PlainParameter p)
    (hq : ∀ q ∈ qs, PlainParameter q) (same : parameters ps = parameters qs) : ps = qs := by
  have chars := congrArg String.toList same
  cases ps with
  | nil =>
    cases qs with
    | nil => rfl
    | cons q qs => simp [parameters] at chars
  | cons p ps =>
    cases qs with
    | nil => simp [parameters] at chars
    | cons q qs =>
      have parts := pieces_parameters hp
      rw [same, pieces_parameters hq] at parts
      refine ((List.map_inj_right ?_).mp parts).symm
      intro a b pair
      obtain ⟨name, value⟩ := List.cons.inj pair
      exact Prod.ext (String.toList_inj.mp name) (String.toList_inj.mp (List.cons.inj value).1)

theorem Name.uri_parameters_injective {m n : Name} {ps qs : List (String × String)}
    (hp : ∀ p ∈ ps, PlainParameter p) (hq : ∀ q ∈ qs, PlainParameter q)
    (same : m.uri ++ parameters ps = n.uri ++ parameters qs) : m = n ∧ ps = qs := by
  have read := m.ofUri_uri_parameters ps
  rw [same, n.ofUri_uri_parameters qs] at read
  cases read
  exact ⟨rfl, parameters_injective hp hq ((String.append_right_inj _).mp same)⟩

namespace LegacyHint

/-- The parameters in the text of a hint. -/
def shown (h : LegacyHint) : List (String × String) :=
  (if h.scope = defaultHintScope then [] else [("ndn.HintScope", Text.wordText h.scope)]) ++
    (if h.mustBeFresh then [("ndn.MustBeFresh", "1")] else []) ++
    (if h.exclude.isEmpty then [] else [("ndn.Exclude", h.exclude.uri)])

theorem text_eq (h : LegacyHint) : Form.text? h = some (h.name.uri ++ parameters h.shown) := rfl

theorem plainParameter_of_mem_shown {h : LegacyHint} {p : String × String} (hp : p ∈ h.shown) :
    PlainParameter p := by
  have fixed : ∀ s ∈ ["ndn.HintScope", "ndn.MustBeFresh", "1", "ndn.Exclude"], PlainText s := by
    decide +kernel
  rcases List.mem_append.mp hp with hp | hp
  · rcases List.mem_append.mp hp with hp | hp
    · split at hp
      · cases hp
      · rw [List.mem_singleton.mp hp]
        exact ⟨fixed _ (by simp), Text.plainText_wordText h.scope⟩
    · split at hp
      · rw [List.mem_singleton.mp hp]
        exact ⟨fixed _ (by simp), fixed _ (by simp)⟩
      · cases hp
  · split at hp
    · cases hp
    · rw [List.mem_singleton.mp hp]
      exact ⟨fixed _ (by simp), h.exclude.plainText_uri⟩

/-- What is shown under each of the three names. -/
theorem lookup_shown (h : LegacyHint) :
    h.shown.lookup "ndn.HintScope" =
        (if h.scope = defaultHintScope then none else some (Text.wordText h.scope)) ∧
      h.shown.lookup "ndn.MustBeFresh" = (if h.mustBeFresh then some "1" else none) ∧
      h.shown.lookup "ndn.Exclude" =
        if h.exclude.isEmpty then none else some h.exclude.uri := by
  unfold shown
  split_ifs <;> exact ⟨rfl, rfl, rfl⟩

/-- The text of a hint shows everything but its size. -/
theorem text_injective {g h : LegacyHint} (same : Form.text? g = Form.text? h) :
    g.name = h.name ∧ g.scope = h.scope ∧ g.mustBeFresh = h.mustBeFresh ∧
      g.exclude.entries = h.exclude.entries := by
  rw [text_eq, text_eq, Option.some_inj] at same
  obtain ⟨name, shown⟩ := Name.uri_parameters_injective
    (fun _ => plainParameter_of_mem_shown) (fun _ => plainParameter_of_mem_shown) same
  obtain ⟨scope, mustBeFresh, exclude⟩ := g.lookup_shown
  obtain ⟨scope', mustBeFresh', exclude'⟩ := h.lookup_shown
  rw [shown, scope'] at scope
  rw [shown, mustBeFresh'] at mustBeFresh
  rw [shown, exclude'] at exclude
  refine ⟨name, ?_, ?_, ?_⟩
  · split_ifs at scope with hh hg hg
    · rw [hh, hg]
    · exact (Text.wordText_injective (Option.some_inj.mp scope)).symm
  · split_ifs at mustBeFresh with hh hg hg
    · rw [hh, hg]
    · rw [Bool.not_eq_true] at hh hg
      rw [hh, hg]
  · split_ifs at exclude with hh hg hg
    · rw [List.isEmpty_iff.mp hh, List.isEmpty_iff.mp hg]
    · exact (Exclude.entries_eq_of_uri_eq (Option.some_inj.mp exclude)).symm

end LegacyHint

/-- Filters with one text have the same entries, whatever the bytes of the components.  The text is
made of letters, digits, four marks, percent signs, commas and stars, and so of none of the
characters that the text of a packet is put together with: from the text of a hint, its name, its
scope, whether only fresh data will do and the entries of its filter are known. -/
theorem Exclude.uri_unambiguous :
    (∀ x y : Exclude, x.uri = y.uri → x.entries = y.entries) ∧
    (∀ x : Exclude, ∀ c ∈ x.uri.toList,
      c.isAlphanum = true ∨ c ∈ ['-', '.', '_', '~', '%', ',', '*']) ∧
    (∀ x : Exclude, ∀ c ∈ ['?', '&', '='], c ∉ x.uri.toList) ∧
    ∀ g h : LegacyHint, Form.text? g = Form.text? h →
      g.name = h.name ∧ g.scope = h.scope ∧ g.mustBeFresh = h.mustBeFresh ∧
        g.exclude.entries = h.exclude.entries := by
  refine ⟨fun x y => entries_eq_of_uri_eq, ?_, fun x => x.plainText_uri,
    fun g h => LegacyHint.text_injective⟩
  intro x c hc
  rw [uri, String.toList_ofList] at hc
  rcases mem_uriChars hc with written | mark
  · rcases Percent.mem_of_isWritten written with letter | mark
    · exact .inl letter
    · exact .inr (List.mem_append_left [',', '*'] mark)
  · exact .inr (List.mem_append_right ['-', '.', '_', '~', '%'] mark)

/-- Components of a comma, of a star, of no byte and of a period, between two open ranges; adding
another range at the end changes nothing, and the sizes of hints are not shown. -/
theorem Exclude.uri_unambiguous_marks :
    let x : Exclude := ⟨[.any, .component ⟨[44]⟩, .component ⟨[42]⟩, .component ⟨[]⟩,
      .component ⟨[46]⟩, .any]⟩
    let h : LegacyHint := { scope := 3, selectors := { fields := { exclude := x } } }
    x.uri = "*,%2C,%2A,...,....,*" ∧ x.excludeAny.uri = x.uri ∧ x.excludeAny.entries = x.entries ∧
      '*' ∈ x.uri.toList ∧ ('*'.isAlphanum = true ∨ '*' ∈ ['-', '.', '_', '~', '%', ',', '*']) ∧
      '?' ∉ x.uri.toList ∧ Form.text? h = Form.text? { h with size := 7 } ∧
      ({ h with size := 7 } : LegacyHint).exclude.entries = x.entries := by
  intro x h
  obtain ⟨entries, chars, plain, texts⟩ := uri_unambiguous
  have text : x.uri = "*,%2C,%2A,...,....,*" := by decide +kernel
  have same : x.excludeAny.uri = x.uri := by decide +kernel
  have star : '*' ∈ x.uri.toList := by decide +kernel
  have texts' : Form.text? h = Form.text? { h with size := 7 } := rfl
  exact ⟨text, same, entries _ _ same, star, chars x '*' star, plain x '?' (by decide), texts',
    (texts h { h with size := 7 } texts').2.2.2.symm⟩

end NamedData
