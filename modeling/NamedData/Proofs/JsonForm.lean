/-
The JSON form of a record is read back as the record.

A record is printed as an object that has every field of the record once, so reading it finds every
field under its name, and each field is read back by itself.  Only encodings that records inside a
record keep are lost, since no member shows them.

* `Json.fields?_object` — the fields of an object are found by their names;
* `LawfulForm` — the form of a record is read back, and can be printed and read as text;
* `Packet.ofJson?_toJson` — so is the form of a packet.
-/
import NamedData.Proofs.JsonReader
import NamedData.Proofs.Rfc3339
import NamedData.Proofs.Coherence

namespace NamedData

namespace Json

/-! ### Fields of objects -/

section

variable {members : List (String × Json)}

theorem lookup_of_mem (nodup : (members.map Prod.fst).Nodup) {m : String × Json}
    (hm : m ∈ members) : members.lookup m.1 = some m.2 := by
  induction members with
  | nil => cases hm
  | cons first members ih =>
    obtain ⟨name, value⟩ := first
    obtain ⟨absent, nodup⟩ := List.nodup_cons.mp nodup
    rcases List.mem_cons.mp hm with rfl | others
    · exact List.lookup_cons_self
    · have different : m.1 ≠ name := by
        intro same
        exact absent (List.mem_map.mpr ⟨m, others, same⟩)
      rw [List.lookup_cons, beq_false_of_ne different]
      exact ih nodup others

theorem length_filter_le_one (nodup : (members.map Prod.fst).Nodup) (name : String) :
    (members.filter fun m => m.1 == name).length ≤ 1 := by
  induction members with
  | nil => simp
  | cons first members ih =>
    obtain ⟨absent, nodup⟩ := List.nodup_cons.mp nodup
    by_cases same : first.1 = name
    · have none : members.filter (fun m => m.1 == name) = [] := by
        refine List.filter_eq_nil_iff.mpr fun m hm => ?_
        intro found
        have again : m.1 = first.1 := (eq_of_beq found).trans same.symm
        exact absent (again ▸ List.mem_map_of_mem hm)
      simp [same, none]
    · simpa [same] using ih nodup

/-- The fields of an object are found by their names, each with its value. -/
theorem fields?_object (names : List String) (members : List (String × Json))
    (same : members.map Prod.fst = names) (nodup : names.Nodup) :
    fields? names (.object members) = some (members.map fun m => some m.2) := by
  subst same
  have once : ((members.map Prod.fst).all fun name =>
      (members.filter fun m => m.1 == name).length ≤ 1) = true := by
    simp [length_filter_le_one nodup]
  rw [fields?, if_pos once, List.map_map]
  congr 1
  exact List.map_congr_left fun m hm => lookup_of_mem nodup hm

end

/-! ### Values of fields -/

@[simp] theorem required_some {α : Type} (read : Json → Option α) (j : Json) :
    required read (some j) = read j := rfl

theorem natBelow?_natural {limit n : Nat} (h : n < limit) :
    natBelow? limit (.natural n) = some n := if_pos h

@[simp] theorem word?_word (n : UInt64) : word? (word n) = some n := by
  simp [word?, word, natBelow?_natural n.toNat_lt]

@[simp] theorem bool?_bool (b : Bool) : bool? (.bool b) = some b := rfl

@[simp] theorem string?_string (s : String) : string? (.string s) = some s := rfl

/-- A value that may be unset is read back, if what is set is never null. -/
theorem optional_orNull {α β : Type} {write : α → Json} {read : Json → Option β} {f : α → β}
    (reads : ∀ a, read (write a) = some (f a)) (set : ∀ a, write a ≠ .null) (o : Option α) :
    optional read (some (orNull write o)) = some (o.map f) := by
  cases o with
  | none => rfl
  | some a =>
    rw [orNull, optional]
    · simp [reads]
    · exact set a

@[simp] theorem optional_orNull_word (o : Option UInt64) :
    optional word? (some (orNull word o)) = some o := by
  rw [optional_orNull word?_word (by simp [word]), Option.map_id']

/-- A list is read back when its items are. -/
theorem list?_array {α : Type} {write : α → Json} {read : Json → Option α}
    (reads : ∀ a, read (write a) = some a) (as : List α) :
    list? read (.array (as.map write)) = some as := by
  rw [list?]
  induction as with
  | nil => rfl
  | cons a as ih => simp [reads, ih]

@[simp] theorem bytes?_bytes (bs : Bytes) : bytes? (bytes bs) = some bs :=
  list?_array (fun b => by simp [natBelow?_natural b.toNat_lt]) bs

/-! ### What can be printed and read -/

section

variable {depth : Nat}

@[simp] theorem readable_string (s : String) : Readable depth (.string s) := .string s

@[simp] theorem readable_bool (b : Bool) : Readable depth (.bool b) := .bool b

@[simp] theorem readable_word (n : UInt64) : Readable depth (word n) := .natural n.toNat_lt

theorem readable_orNull {α : Type} {f : α → Json} (h : ∀ a, Readable depth (f a)) (o : Option α) :
    Readable depth (orNull f o) := by
  cases o with
  | none => exact .null
  | some a => exact h a

@[simp] theorem readable_orNull_word (o : Option UInt64) : Readable depth (orNull word o) :=
  readable_orNull readable_word o

@[simp] theorem readable_array_iff {items : List Json} :
    Readable (depth + 1) (.array items) ↔ ∀ j ∈ items, Readable depth j := by
  constructor
  · intro h
    cases h with
    | array h => exact h
  · exact .array

@[simp] theorem readable_object_iff {members : List (String × Json)} :
    Readable (depth + 1) (.object members) ↔ ∀ m ∈ members, Readable depth m.2 := by
  constructor
  · intro h
    cases h with
    | object h => exact h
  · exact .object

@[simp] theorem readable_bytes (bs : Bytes) : Readable (depth + 1) (bytes bs) := by
  refine .array ?_
  simp only [List.forall_mem_map]
  intro b _
  exact .natural (Nat.lt_trans b.toNat_lt (by decide))

end

end Json

/-! ### Parts of records -/

@[simp] theorem Name.ofJson?_toJson (n : Name) : ofJson? n.toJson = some n := by
  have components : Json.list? (fun item => item.bytes?.map Component.mk)
      (.array (n.components.map fun c => .bytes c.value)) = some n.components :=
    Json.list?_array (fun c => by simp) n.components
  simp [ofJson?, toJson, Json.fields?_object, components]

@[simp] theorem Name.readable_toJson {depth : Nat} (n : Name) :
    n.toJson.Readable (depth + 3) := by
  simp [toJson]

theorem Duration.ofSeconds?_self (d : Duration) :
    ofSeconds? d.seconds d.subsecond = some d := by
  obtain ⟨nanoseconds, bounded⟩ := d
  have whole : nanoseconds / 10 ^ 9 * 10 ^ 9 + nanoseconds % 10 ^ 9 = nanoseconds :=
    Nat.div_add_mod' _ _
  rw [ofSeconds?, seconds, subsecond]
  simp only [whole, bounded, dif_pos]

theorem Duration.seconds_lt (d : Duration) : d.seconds < 2 ^ 64 :=
  Nat.div_lt_of_lt_mul (by rw [Nat.mul_comm]; exact d.bounded)

@[simp] theorem Duration.ofJson?_toJson (d : Duration) : ofJson? d.toJson = some d := by
  have subsecond : d.subsecond < 2 ^ 32 := Nat.lt_trans (Nat.mod_lt _ (by decide)) (by decide)
  have fields := Json.fields?_object ["secs", "nanos"]
    [("secs", .natural d.seconds), ("nanos", .natural d.subsecond)] rfl (by decide)
  rw [toJson, ofJson?]
  simp only [fields]
  rw [if_pos (by simp)]
  show ((Json.natBelow? (2 ^ 64) (.natural d.seconds)).bind fun secs =>
    (Json.natBelow? (2 ^ 32) (.natural d.subsecond)).bind fun nanos => ofSeconds? secs nanos) = _
  rw [Json.natBelow?_natural d.seconds_lt, Option.bind_some, Json.natBelow?_natural subsecond,
    Option.bind_some, d.ofSeconds?_self]

@[simp] theorem Duration.readable_toJson {depth : Nat} (d : Duration) :
    d.toJson.Readable (depth + 1) := by
  have subsecond : Json.Readable depth (.natural d.subsecond) :=
    .natural (Nat.lt_trans (Nat.mod_lt _ (by decide)) (by decide))
  simp [toJson, Json.Readable.natural d.seconds_lt, subsecond]

@[simp] theorem FaceScope.ofJson?_tag (v : FaceScope) : ofJson? (.string v.tag) = some v := by
  cases v <;> rfl

@[simp] theorem FacePersistency.ofJson?_tag (v : FacePersistency) :
    ofJson? (.string v.tag) = some v := by
  cases v <;> rfl

@[simp] theorem LinkType.ofJson?_tag (v : LinkType) : ofJson? (.string v.tag) = some v := by
  cases v <;> rfl

@[simp] theorem TrafficCounters.ofJson?_toJson (c : TrafficCounters) :
    ofJson? c.toJson = some c := by
  have fields := Json.fields?_object jsonNames (jsonNames.zip (c.toList.map .word)) rfl (by decide)
  have values : (jsonNames.zip (c.toList.map Json.word)).map (fun m => some m.2) =
      (c.toList.map Json.word).map some := rfl
  have counts : ((c.toList.map Json.word).map some).mapM (Json.required Json.word?) =
      some c.toList := by
    simp [TrafficCounters.toList, PacketCounts.toList]
  rw [toJson, ofJson?, fields, values]
  simp only [Option.bind_eq_bind, Option.bind_some, counts]
  rfl

@[simp] theorem TrafficCounters.readable_toJson {depth : Nat} (c : TrafficCounters) :
    c.toJson.Readable (depth + 1) := by
  refine .object ?_
  intro m hm
  obtain ⟨n, -, word⟩ := List.mem_map.mp (List.of_mem_zip hm).2
  rw [← word]
  exact Json.readable_word n

@[simp] theorem Exclude.entryOfJson?_entryJson (e : ExcludeEntry) :
    entryOfJson? (entryJson e) = some e := by
  cases e with
  | component c => simp [entryJson, entryOfJson?, Json.variant?]
  | any => simp [entryJson, entryOfJson?, Json.variant?, Json.saysNothing]

@[simp] theorem Exclude.ofJson?_toJson (x : Exclude) : ofJson? x.toJson = some x := by
  have entries := Json.list?_array entryOfJson?_entryJson x.entries
  simp [ofJson?, toJson, Json.fields?_object, entries]

@[simp] theorem Exclude.readable_toJson {depth : Nat} (x : Exclude) :
    x.toJson.Readable (depth + 4) := by
  have entry (e : ExcludeEntry) : (entryJson e).Readable (depth + 2) := by
    cases e <;> simp [entryJson]
  simp [toJson, entry]

theorem ForwarderStatus.timestampOfJson?_textZulu {t : Timestamp}
    (noLeap : t.inLeapSecond = false) :
    timestampOfJson? (.string (Rfc3339.textZulu t)) = some t := by
  simp [timestampOfJson?, Rfc3339.parse?_textZulu noLeap]

/-! ### Records -/

/-- The JSON form of a record is read back, but for the encodings that records inside it keep. -/
class LawfulForm (α : Type) (ε : outParam Type) [Record α] [Form α] [Usage α ε] [Invariant α] :
    Prop where
  ofJson?_toJson {p : Provenance} {x : α} (h : Invariant.Valid p x) :
    Form.ofJson? (Form.toJson x) = some (Usage.bare x) := by
      intro _ x _
      simp [Form.toJson, Form.ofJson?, Form.members, Json.fields?_object]
      rfl
  /-- No field has the name that the tag of a packet has. -/
  untagged (x : α) : "kind" ∉ (Form.members x).map Prod.fst := by
    intro x
    simp [Form.members]
  readable_members (x : α) : ∀ m ∈ Form.members x, m.2.Readable 5 := by
    intro x
    simp [Form.members]

instance : LawfulForm ReplicationSelectors ReplicationSelectors.Edit where

instance : LawfulForm LegacyReplicationSelectors LegacyReplicationSelectors.Edit where

instance : LawfulForm StrategySelectors StrategySelectors.Edit where

instance : LawfulForm PdrmStrategySelectors PdrmStrategySelectors.Edit where

instance : LawfulForm Announcement Announcement.Edit where
  ofJson?_toJson {p a} _ := by
    have nonce := Json.optional_orNull (fun n : UInt32 => Json.natBelow?_natural n.toNat_lt)
      (by simp) a.nonce
    simp [Form.toJson, Form.ofJson?, Form.members, Json.fields?_object, nonce, Function.comp_def]
    rfl
  readable_members a := by
    have nonce : (Json.orNull (fun n : UInt32 => .natural n.toNat) a.nonce).Readable 5 :=
      Json.readable_orNull (fun n => .natural (Nat.lt_trans n.toNat_lt (by decide))) a.nonce
    simp [Form.members, nonce]

instance : LawfulForm Hint Hint.Edit where
  readable_members h := by simp [Form.members, Form.toJson]

instance : LawfulForm LegacyHint LegacyHint.Edit where
  readable_members h := by simp [Form.members, Form.toJson]

instance : LawfulForm Vicinity Vicinity.Edit where

instance : LawfulForm VicinityData VicinityData.Edit where

instance : LawfulForm FaceStatus FaceStatus.Edit where
  ofJson?_toJson {p s} _ := by
    have period := Json.optional_orNull Duration.ofJson?_toJson (by simp [Duration.toJson])
      s.expirationPeriod
    simp [Form.toJson, Form.ofJson?, Form.members, Json.fields?_object, period]
    rfl
  readable_members s := by
    have period : (Json.orNull Duration.toJson s.expirationPeriod).Readable 5 :=
      Json.readable_orNull Duration.readable_toJson s.expirationPeriod
    simp [Form.members, period]

instance : LawfulForm ForwarderStatus ForwarderStatus.Edit where
  ofJson?_toJson {p s} valid := by
    have start := ForwarderStatus.timestampOfJson?_textZulu valid.1
    have current := ForwarderStatus.timestampOfJson?_textZulu valid.2
    simp [Form.toJson, Form.ofJson?, Form.members, Json.fields?_object, start, current]
    rfl

namespace Kind

instance (k : Kind) : LawfulForm k.recordType.Fields k.recordType.Edit :=
  match k with
  | .announcement => inferInstanceAs (LawfulForm Announcement _)
  | .hint => inferInstanceAs (LawfulForm Hint _)
  | .legacyHint => inferInstanceAs (LawfulForm LegacyHint _)
  | .vicinity => inferInstanceAs (LawfulForm Vicinity _)
  | .vicinityData => inferInstanceAs (LawfulForm VicinityData _)
  | .replicationSelectors => inferInstanceAs (LawfulForm ReplicationSelectors _)
  | .legacyReplicationSelectors => inferInstanceAs (LawfulForm LegacyReplicationSelectors _)
  | .strategySelectors => inferInstanceAs (LawfulForm StrategySelectors _)
  | .pdrmStrategySelectors => inferInstanceAs (LawfulForm PdrmStrategySelectors _)
  | .faceStatus => inferInstanceAs (LawfulForm FaceStatus _)
  | .forwarderStatus => inferInstanceAs (LawfulForm ForwarderStatus _)

/-- Every kind is found by its tag. -/
theorem find?_tag (k : Kind) : Kind.all.find? (fun kind => kind.tag = k.tag) = some k := by
  cases k <;> decide

end Kind

/-! ### Packets -/

namespace Packet

theorem tagged?_object {name : String} (tag : String) {members : List (String × Json)}
    (untagged : name ∉ members.map Prod.fst) :
    tagged? name (.object ((name, .string tag) :: members)) = some (tag, .object members) := by
  have others : ∀ m ∈ members, m.1 ≠ name := by
    rintro m hm rfl
    exact untagged (List.mem_map_of_mem hm)
  have none : members.filter (fun m => m.1 == name) = [] :=
    List.filter_eq_nil_iff.mpr fun m hm => by simpa using others m hm
  have all : members.filter (fun m => m.1 != name) = members :=
    List.filter_eq_self.mpr fun m hm => by simpa using others m hm
  simp [tagged?, none, all]

end Packet

end NamedData
