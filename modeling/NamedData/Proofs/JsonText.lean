/-
The JSON text of a packet stands on one line, whatever its strings hold.

A line feed can only get into the text through a string, where it is escaped like every control
character, or through a number that is kept as it was written, and no record holds such a number.

* `Json.Plain` — a value without numbers of that sort;
* `Json.Plain.newline_not_mem` — its text has no line feed in it;
* `Packet.plain_toJson` — the JSON form of every packet is such a value.
-/
import NamedData.Packet

namespace NamedData

/-! ### Text on one line -/

theorem Text.newline_not_mem_decimal (n : Nat) : '\n' ∉ decimal n := by
  have digit : ∀ d < 10, '\n' ≠ digitChar d := by decide
  -- along the recursion, which takes off the last digit
  induction n using Nat.strongRecOn with
  | ind n ih =>
    rw [decimal]
    split
    · rename_i small
      simpa using digit n small
    · have front := ih (n / 10) (by omega)
      have last := digit (n % 10) (Nat.mod_lt n (by decide))
      simp [front, last]

namespace Json

/-- The value holds no number that is kept as it was written. -/
inductive Plain : Json → Prop where
  | null : Plain .null
  | bool (b : Bool) : Plain (.bool b)
  | natural (n : Nat) : Plain (.natural n)
  | string (s : String) : Plain (.string s)
  | array {items : List Json} (h : ∀ j ∈ items, Plain j) : Plain (.array items)
  | object {members : List (String × Json)} (h : ∀ m ∈ members, Plain m.2) :
    Plain (.object members)

theorem newline_not_mem_escapeChar (c : Char) : '\n' ∉ escapeChar c := by
  have digit : ∀ d < 16, '\n' ≠ Hex.lowerDigit d := by decide
  by_cases feed : c = '\n'
  · subst feed
    decide
  · rw [escapeChar]
    repeat' split
    all_goals try decide
    · -- a control character, written as its number
      have high := digit (c.toNat / 16) (by omega)
      have low := digit (c.toNat % 16) (by omega)
      simp [high, low]
    · simpa using Ne.symm feed

theorem newline_not_mem_stringChars (s : String) : '\n' ∉ stringChars s := by
  simp [stringChars, newline_not_mem_escapeChar]

section

variable {items : List Json} {members : List (String × Json)}

theorem newline_not_mem_moreItemChars (h : ∀ j ∈ items, '\n' ∉ chars j) :
    '\n' ∉ moreItemChars items := by
  induction items with
  | nil => simp [moreItemChars]
  | cons j items ih =>
    have first := h j List.mem_cons_self
    have others := ih fun i hi => h i (List.mem_cons_of_mem j hi)
    simp [moreItemChars, first, others]

theorem newline_not_mem_itemChars (h : ∀ j ∈ items, '\n' ∉ chars j) :
    '\n' ∉ itemChars items := by
  cases items with
  | nil => simp [itemChars]
  | cons j items =>
    have first := h j List.mem_cons_self
    have others := newline_not_mem_moreItemChars fun i hi => h i (List.mem_cons_of_mem j hi)
    simp [itemChars, first, others]

theorem newline_not_mem_moreMemberChars (h : ∀ m ∈ members, '\n' ∉ chars m.2) :
    '\n' ∉ moreMemberChars members := by
  induction members with
  | nil => simp [moreMemberChars]
  | cons m members ih =>
    have name := newline_not_mem_stringChars m.1
    have first := h m List.mem_cons_self
    have others := ih fun i hi => h i (List.mem_cons_of_mem m hi)
    simp [moreMemberChars, name, first, others]

theorem newline_not_mem_memberChars (h : ∀ m ∈ members, '\n' ∉ chars m.2) :
    '\n' ∉ memberChars members := by
  cases members with
  | nil => simp [memberChars]
  | cons m members =>
    have name := newline_not_mem_stringChars m.1
    have first := h m List.mem_cons_self
    have others := newline_not_mem_moreMemberChars fun i hi => h i (List.mem_cons_of_mem m hi)
    simp [memberChars, name, first, others]

end

theorem Plain.newline_not_mem {j : Json} (h : j.Plain) : '\n' ∉ j.chars := by
  -- on how the value is built: brackets, commas and colons are all that the printer adds
  induction h with
  | null => simp [chars]
  | bool b => cases b <;> simp [chars]
  | natural n =>
    rw [chars]
    exact Text.newline_not_mem_decimal n
  | string s =>
    rw [chars]
    exact newline_not_mem_stringChars s
  | array h ih => simp [chars, newline_not_mem_itemChars ih]
  | object h ih => simp [chars, newline_not_mem_memberChars ih]

/-! ### The JSON forms of records -/

@[simp] theorem plain_word (n : UInt64) : Plain (word n) := .natural _

theorem plain_orNull {α : Type} {f : α → Json} (h : ∀ a, Plain (f a)) (o : Option α) :
    Plain (orNull f o) := by
  cases o with
  | none => exact .null
  | some a => exact h a

@[simp] theorem plain_orNull_word (o : Option UInt64) : Plain (orNull word o) :=
  plain_orNull plain_word o

@[simp] theorem plain_string (s : String) : Plain (.string s) := .string s

@[simp] theorem plain_bool (b : Bool) : Plain (.bool b) := .bool b

@[simp] theorem plain_natural (n : Nat) : Plain (.natural n) := .natural n

@[simp] theorem plain_bytes (bs : Bytes) : Plain (bytes bs) := by
  refine .array ?_
  simp

end Json

@[simp] theorem Name.plain_toJson (n : Name) : n.toJson.Plain := by
  refine .object ?_
  simp only [List.forall_mem_singleton]
  refine .array ?_
  simp

@[simp] theorem Duration.plain_toJson (d : Duration) : d.toJson.Plain := by
  refine .object ?_
  simp

@[simp] theorem Exclude.plain_toJson (x : Exclude) : x.toJson.Plain := by
  refine .object ?_
  simp only [List.forall_mem_singleton]
  refine .array ?_
  simp only [List.forall_mem_map]
  intro e he
  cases e with
  | component c =>
    refine .object ?_
    simp
  | any => exact .string "Any"

@[simp] theorem TrafficCounters.plain_toJson (c : TrafficCounters) : c.toJson.Plain := by
  refine .object ?_
  intro m hm
  obtain ⟨n, -, word⟩ := List.mem_map.mp (List.of_mem_zip hm).2
  rw [← word]
  exact Json.plain_word n

/-- Every member of the JSON object of a record is such a value. -/
class PlainForm (α : Type) [Form α] : Prop where
  plain_members (x : α) : ∀ m ∈ Form.members x, m.2.Plain

theorem Form.plain_toJson {α : Type} [Form α] [PlainForm α] (x : α) : (Form.toJson x).Plain :=
  .object (PlainForm.plain_members x)

instance : PlainForm ReplicationSelectors := ⟨fun s => by simp [Form.members]⟩

instance : PlainForm LegacyReplicationSelectors := ⟨fun s => by simp [Form.members]⟩

instance : PlainForm StrategySelectors := ⟨fun s => by simp [Form.members]⟩

instance : PlainForm PdrmStrategySelectors := ⟨fun s => by simp [Form.members]⟩

instance : PlainForm Announcement := ⟨fun a => by
  have nonce := Json.plain_orNull (f := fun n : UInt32 => .natural n.toNat)
    (fun n => .natural n.toNat) a.nonce
  simp [Form.members, nonce]⟩

instance : PlainForm Hint := ⟨fun h => by
  simp [Form.members, Form.plain_toJson h.selectors.fields]⟩

instance : PlainForm LegacyHint := ⟨fun h => by
  simp [Form.members, Form.plain_toJson h.selectors.fields]⟩

instance : PlainForm Vicinity := ⟨fun v => by simp [Form.members]⟩

instance : PlainForm VicinityData := ⟨fun v => by simp [Form.members]⟩

instance : PlainForm FaceStatus := ⟨fun s => by
  have period := Json.plain_orNull Duration.plain_toJson s.expirationPeriod
  simp [Form.members, period]⟩

instance : PlainForm ForwarderStatus := ⟨fun s => by simp [Form.members]⟩

namespace Packet

theorem plain_toJson (p : Packet) : p.toJson.Plain := by
  have tagged {tag : String} {members : List (String × Json)} (h : ∀ m ∈ members, m.2.Plain) :
      (Json.object (("kind", .string tag) :: members)).Plain :=
    .object (List.forall_mem_cons.mpr ⟨.string tag, h⟩)
  cases p with
  | announcement p => exact tagged (PlainForm.plain_members p.fields)
  | hint p => exact tagged (PlainForm.plain_members p.fields)
  | legacyHint p => exact tagged (PlainForm.plain_members p.fields)
  | vicinity p => exact tagged (PlainForm.plain_members p.fields)
  | vicinityData p => exact tagged (PlainForm.plain_members p.fields)
  | replicationSelectors s => exact tagged (PlainForm.plain_members s.fields)
  | legacyReplicationSelectors s => exact tagged (PlainForm.plain_members s.fields)
  | strategySelectors s => exact tagged (PlainForm.plain_members s.fields)
  | pdrmStrategySelectors s => exact tagged (PlainForm.plain_members s.fields)
  | faceStatus s => exact tagged (PlainForm.plain_members s.fields)
  | forwarderStatus s => exact tagged (PlainForm.plain_members s.fields)

theorem newline_not_mem_jsonText (p : Packet) : '\n' ∉ p.jsonText.toList := by
  rw [jsonText, Json.text, String.toList_ofList]
  exact p.plain_toJson.newline_not_mem

end Packet

end NamedData
