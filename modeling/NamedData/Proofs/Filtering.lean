/-
What exclude filters take out, as entries are added at their end.

An open range ends at the component that is listed next, so a range at the end of a filter has no
bound above, and the component that is added behind it gives it one.  Any other entry takes out the
same components whatever is added.  The one lemma behind all of this is `excludesFrom_append`: a
filter can be cut into two at any place but directly after a range that the next entry bounds.

* `excluded`, `beyond` — what a filter takes out, and what lies above the end of it;
* `LegacyHint.matchesName_iff` — a hint covers the names that extend its own, unless the component
  with which they go on is taken out;
* `filtering_exact` — what each way to add an entry adds to what is taken out, and what that means
  for the names that a hint covers.
-/
import Mathlib.Data.Set.Insert
import NamedData.Packet.LegacyHint
import NamedData.Proofs.NamesAndFilters

namespace NamedData

/-! ### What a filter takes out -/

namespace Exclude

variable {x y : Exclude} {c d : Component} {lower : Option Component} {es rest : List ExcludeEntry}

/-- The components that the filter takes out. -/
def excluded (x : Exclude) : Set Component := {d | x.excludes d = true}

/-- The components above the one that the filter lists last; all of them if it has no entry. -/
def beyond (x : Exclude) : Set Component :=
  {d | ∀ l, x.entries.getLast? = some (.component l) → compare d l = .gt}

/-- The component listed just before what follows the entries. -/
def lastListed (lower : Option Component) (es : List ExcludeEntry) : Option Component :=
  es.getLast?.elim lower ExcludeEntry.component?

theorem lastListed_cons (e : ExcludeEntry) :
    lastListed lower (e :: es) = lastListed e.component? es := by
  rw [lastListed, lastListed, List.getLast?_cons]
  cases es.getLast? <;> rfl

/-- What more entries take out is added to what there is, unless they bound a range. -/
theorem excludesFrom_append
    (apart : es.getLast? = some .any → rest.head?.bind ExcludeEntry.component? = none) :
    excludesFrom d lower (es ++ rest) =
      (excludesFrom d lower es || excludesFrom d (lastListed lower es) rest) := by
  induction es generalizing lower with
  | nil => rfl
  | cons e es ih =>
    have later : es.getLast? = some .any → rest.head?.bind ExcludeEntry.component? = none := by
      intro last
      apply apart
      rw [List.getLast?_cons, last]
      rfl
    rw [lastListed_cons, List.cons_append]
    cases e with
    | component c =>
      rw [excludesFrom, excludesFrom, ih later, Bool.or_assoc]
      rfl
    | any =>
      -- the bound above the range is the entry next to it, also when that is one of the new ones
      have upper : (es ++ rest).head?.bind ExcludeEntry.component? =
          es.head?.bind ExcludeEntry.component? := by
        cases es with
        | nil => exact apart rfl
        | cons => rfl
      rw [excludesFrom, excludesFrom, ih later, upper, Bool.or_assoc]
      rfl

theorem mem_beyond_iff (closed : x.entries.getLast? ≠ some .any) :
    d ∈ x.beyond ↔ above d (lastListed none x.entries) = true := by
  show (∀ l, x.entries.getLast? = some (.component l) → compare d l = .gt) ↔ _
  rw [lastListed]
  cases last : x.entries.getLast? with
  | none => simp [above]
  | some e =>
    cases e with
    | component l => simp [above, ExcludeEntry.component?, Ordering.isGT_iff_eq_gt]
    | any => exact absurd last closed

theorem excluded_empty : excluded {} = ∅ := by
  ext d
  show false = true ↔ False
  simp

theorem excluded_excludeOne (closed : x.entries.getLast? ≠ some .any) :
    (x.excludeOne c).excluded = insert c x.excluded := by
  ext d
  show excludesFrom d none (x.entries ++ [.component c]) = true ↔ d = c ∨ x.excludes d = true
  rw [excludesFrom_append fun h => absurd h closed, excludesFrom, excludesFrom, Bool.or_false,
    Bool.or_eq_true, beq_iff_eq, or_comm, eq_comm (a := d)]
  rfl

theorem excluded_excludeAny (closed : x.entries.getLast? ≠ some .any) :
    x.excludeAny.excluded = x.excluded ∪ x.beyond := by
  ext d
  rw [excludeAny, if_neg closed]
  show excludesFrom d none (x.entries ++ [.any]) = true ↔ x.excludes d = true ∨ d ∈ x.beyond
  rw [excludesFrom_append fun _ => rfl, mem_beyond_iff closed, excludesFrom, excludesFrom]
  simp [excludes, below]

/-- The range at the end of a filter gets its bound from the component that is added. -/
theorem excluded_excludeOne_of_any (closed : y.entries.getLast? ≠ some .any)
    (h : x.entries = y.entries ++ [.any]) :
    (x.excludeOne c).excluded =
      insert c (y.excluded ∪ {d ∈ y.beyond | compare d c = .lt}) := by
  ext d
  show excludesFrom d none (x.entries ++ [.component c]) = true ↔
    d = c ∨ (y.excludes d = true ∨ d ∈ y.beyond ∧ compare d c = .lt)
  rw [h, List.append_assoc, excludesFrom_append fun _ => rfl, mem_beyond_iff closed]
  simp only [excludesFrom, excludes, below, List.cons_append, List.nil_append, List.head?_cons,
    Option.bind_some, ExcludeEntry.component?, Option.all_some, Ordering.isLT_iff_eq_lt,
    Bool.or_eq_true, Bool.and_eq_true, beq_iff_eq, Bool.or_false]
  rw [← or_assoc, or_comm, eq_comm (a := c)]

/-- No range follows a range in a filter that the library builds. -/
theorem Built.closed_of_append_any (built : x.Built) (h : x.entries = y.entries ++ [.any]) :
    y.entries.getLast? ≠ some .any := by
  intro last
  have apart := built.isChain
  rw [h] at apart
  exact (List.isChain_append.mp apart).2.2 _ last _ rfl ⟨rfl, rfl⟩

end Exclude

/-! ### Which names a hint covers -/

namespace Name

variable {a b : Name}

theorem isPrefixOf_iff : a.isPrefixOf b = true ↔ a.components <+: b.components := by
  obtain ⟨cs⟩ := a
  obtain ⟨ds⟩ := b
  rw [isPrefixOf, length, length, Bool.and_eq_true, decide_eq_true_iff]
  induction cs generalizing ds with
  | nil => simp
  | cons c cs ih =>
    cases ds with
    | nil => simp
    | cons d ds =>
      rw [List.cons_prefix_cons, ← ih]
      simp only [List.length_cons, Nat.succ_le_succ_iff, List.zip_cons_cons, List.all_cons,
        Bool.and_eq_true, beq_iff_eq, and_left_comm]

theorem get?_of_isPrefixOf {i : Nat} (h : a.isPrefixOf b = true) (inside : i < a.length) :
    b.get? i = a.get? i := by
  obtain ⟨behind, h⟩ := isPrefixOf_iff.mp h
  rw [get?, get?, ← h, List.getElem?_append_left inside]

/-- Extending a name does not change which names that are no longer are its prefixes. -/
theorem isPrefixOf_congr {p : Name} (h : a.isPrefixOf b = true) (shorter : p.length ≤ a.length) :
    p.isPrefixOf b = p.isPrefixOf a := by
  rw [Bool.eq_iff_iff, isPrefixOf_iff, isPrefixOf_iff]
  have within := isPrefixOf_iff.mp h
  exact ⟨fun hp => List.prefix_of_prefix_length_le hp within shorter, fun hp => hp.trans within⟩

end Name

namespace LegacyHint

variable {h : LegacyHint} {n m : Name}

theorem matchesName_iff :
    h.matchesName n = true ↔ h.name.isPrefixOf n = true ∧
      ∀ next, n.get? h.name.length = some next → next ∉ h.exclude.excluded := by
  rw [matchesName, Bool.and_eq_true]
  cases n.get? h.name.length <;> simp [Exclude.excluded]

/-- Only the component behind the hint's own name matters, of those behind it. -/
theorem matchesName_of_isPrefixOf (longer : h.name.length < n.length)
    (extended : n.isPrefixOf m = true) : h.matchesName m = h.matchesName n := by
  rw [matchesName, matchesName, Name.isPrefixOf_congr extended (Nat.le_of_lt longer),
    Name.get?_of_isPrefixOf extended longer]

/-- One more component that is taken out is one less with which a name may go on. -/
theorem matchesName_excludeOne {g : LegacyHint} {c : Component} (name : g.name = h.name)
    (exclude : g.exclude = h.exclude.excludeOne c)
    (closed : h.exclude.entries.getLast? ≠ some .any) :
    g.matchesName n = true ↔ h.matchesName n = true ∧ n.get? h.name.length ≠ some c := by
  rw [matchesName_iff, matchesName_iff, name, exclude, Exclude.excluded_excludeOne closed,
    and_assoc]
  refine and_congr_right fun _ => ?_
  cases n.get? h.name.length with
  | none => simp
  | some next => simp [not_or, and_comm]

end LegacyHint

/-! ### Everything together -/

/-- What a filter takes out after an entry was added.  A component is taken out in addition, and a
range takes out what lies above the last entry; but a component behind a range bounds it, and a
range behind a range changes nothing.  A hint that covers the names that extend its own therefore
decides them by the component with which they go on, and one component more in its filter takes
away the names that go on with it. -/
theorem filtering_exact :
    Exclude.excluded {} = ∅ ∧
    (∀ x : Exclude, x.Built → x.entries.getLast? ≠ some .any →
      (∀ c, (x.excludeOne c).excluded = insert c x.excluded) ∧
      x.excludeAny.excluded = x.excluded ∪ x.beyond) ∧
    (∀ x y : Exclude, x.Built → x.entries = y.entries ++ [.any] →
      y.entries.getLast? ≠ some .any ∧ x.excludeAny.excluded = x.excluded ∧
      ∀ c, (x.excludeOne c).excluded =
        insert c (y.excluded ∪ {d ∈ y.beyond | compare d c = .lt})) ∧
    (∀ (h : LegacyHint) (n m : Name), h.name.length < n.length → n.isPrefixOf m = true →
      h.matchesName m = h.matchesName n) ∧
    (∀ (held : Cached LegacyHint) (c : Component),
      let h := held.fields
      let edit : LegacyHint.Edit := .inSelectors (.setExclude (h.exclude.excludeOne c))
      h.exclude.entries.getLast? ≠ some .any → ∀ n : Name,
        (edit.apply held).fields.matchesName n = true ↔
          h.matchesName n = true ∧ n.get? h.name.length ≠ some c) := by
  refine ⟨Exclude.excluded_empty, ?_, ?_, ?_, ?_⟩
  · intro x _ closed
    exact ⟨fun c => Exclude.excluded_excludeOne closed, Exclude.excluded_excludeAny closed⟩
  · intro x y built h
    have closed := built.closed_of_append_any h
    refine ⟨closed, ?_, fun c => Exclude.excluded_excludeOne_of_any closed h⟩
    rw [Exclude.excludeAny, if_pos (by rw [h, List.getLast?_append]; rfl)]
  · intro h n m longer extended
    exact LegacyHint.matchesName_of_isPrefixOf longer extended
  · intro held c h edit closed n
    exact LegacyHint.matchesName_excludeOne rfl rfl closed

/-- A filter of two components and the range between them, and a hint that has it.  With one more
component in the filter, the hint does not cover the names that go on with that one. -/
theorem filtering_exact_range :
    let byte (v : UInt8) : Component := ⟨[v]⟩
    let below := Exclude.excludeOne {} (byte 98)
    let x := below.excludeAny.excludeOne (byte 100)
    let held : Cached LegacyHint :=
      { fields := { name := ⟨[byte 112]⟩, selectors := { fields := { exclude := x } } } }
    let edit : LegacyHint.Edit := .inSelectors (.setExclude (x.excludeOne (byte 102)))
    let name (v : UInt8) : Name := ⟨[byte 112, byte v, byte 113]⟩
    x.excluded = insert (byte 100)
        (insert (byte 98) ∅ ∪ {d ∈ below.beyond | compare d (byte 100) = .lt}) ∧
      byte 99 ∈ x.excluded ∧ ⟨[98, 0]⟩ ∉ x.excluded ∧
      held.fields.matchesName (name 99) = false ∧ held.fields.matchesName (name 102) = true ∧
      (edit.apply held).fields.matchesName (name 101) = true ∧
      (edit.apply held).fields.matchesName (name 102) = false := by
  intro byte below x held edit name
  obtain ⟨nothing, added, ranges, extended, hints⟩ := filtering_exact
  have one : below.excluded = insert (byte 98) ∅ := by
    rw [← nothing]
    exact (added {} .empty (by decide)).1 (byte 98)
  have built : below.excludeAny.Built := (Exclude.Built.empty.excludeOne (byte 98)).excludeAny
  obtain ⟨-, -, bounded⟩ := ranges below.excludeAny below built rfl
  have both := bounded (byte 100)
  rw [one] at both
  have covered : held.fields.matchesName (name 102) = true := by decide
  have shorter : held.fields.matchesName (name 99) =
      held.fields.matchesName ⟨[byte 112, byte 99]⟩ :=
    extended held.fields _ _ (by decide) (by decide)
  have changed := hints held (byte 102) (by decide)
  refine ⟨both, rfl, Bool.false_ne_true, shorter, covered, (changed _).mpr (by decide), ?_⟩
  exact Bool.eq_false_iff.mpr fun still => ((changed _).mp still).2 rfl

end NamedData
