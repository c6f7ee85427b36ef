/-
Looking at a record leaves nothing behind that anyone can see.

Encoding, comparing, measuring and printing a record fill in encodings on the way, and an encoding
that is there sends later operations another way: a nonce is written over instead of dropping it, a
hint embeds the bytes that its selectors keep, a copy carries them along.  `Session.filled` is the
session with all its encodings filled in, so two sessions with the same filled form differ at most
in which encodings are there already.

* `Announcement.encoding_withNonce` — setting a nonce patches the encoding that an announcement has
  or would get, whichever of the two it is;
* `Session.outcome_filled`, `Session.filled_step` — an operation gives the same on a session and on
  its filled form, and leaves sessions with the same filled form;
* `Session.filled_step_of_observes` — an operation that only looks keeps the filled form;
* `Session.results_eq_of_remaining_eq` — so operations that only look can be put into a run and
  taken out of it, and the others give what they gave.
-/
import NamedData.Proofs.Coherence

namespace NamedData

/-! ### Encodings filled in -/

section

variable {α : Type} [Record α]

/-- The record with the encoding of the record inside it, if it holds one. -/
def Record.filled (x : α) : α := ((Record.encodeNested? x).map Prod.snd).getD x

/-- The cached record with every encoding that it can have. -/
def Cached.filled (c : Cached α) : Cached α := ⟨Record.filled c.fields, some c.encoding⟩

def Held.filled (h : Held α) : Held α := h.withCached h.toCached.filled

/-- The session with every encoding that its record and its copy can have. -/
def Session.filled (s : Session α) : Session α := ⟨s.current.filled, s.saved?.map Held.filled⟩

end

/-- Filling in the encoding of a record inside changes nothing that is written or shown. -/
class LawfulFilling (α : Type) [Record α] [Form α] : Prop where
  filled_filled (x : α) : Record.filled (Record.filled x) = Record.filled x := by
    exact fun _ => rfl
  filled_settle (x : α) : Record.filled (Record.settle x) = Record.filled x := by
    exact fun _ => rfl
  fields_filled (x : α) : Record.fields (Record.filled x) = Record.fields x := by
    exact fun _ => rfl
  nested_filled (x : α) : (Record.encodeNested? (Record.filled x)).map Prod.fst =
    (Record.encodeNested? x).map Prod.fst := by exact fun _ => rfl
  members_filled (x : α) : Form.members (Record.filled x) = Form.members x := by
    exact fun _ => rfl
  text_filled (x : α) : Form.text? (Record.filled x) = Form.text? x := by exact fun _ => rfl
  matches_filled (x : α) : Form.matches? (Record.filled x) = Form.matches? x := by
    exact fun _ => rfl

/-- A change comes to the same whether or not the encodings were filled in before it. -/
class LawfulEdits (α : Type) (ε : outParam Type) [Record α] [Form α] [Editable α ε] : Prop extends
    LawfulFilling α where
  filled_apply (change : ε) (c : Cached α) :
    (Editable.apply change c.filled).filled = (Editable.apply change c).filled

section

variable {α : Type} [Record α]

/-- What encoding the record inside leaves is the filled record. -/
theorem Record.eq_filled_of_encodeNested {x y : α} {b : Block}
    (h : encodeNested? x = some (b, y)) : y = filled x := by
  rw [filled, h]
  rfl

theorem Held.filled_withCached {c d : Cached α} (h : c.filled = d.filled) (held : Held α) :
    (held.withCached c).filled = (held.withCached d).filled := congrArg held.withCached h

theorem Session.filled_eq {x y : Held α} {u v : Option (Held α)} (current : x.filled = y.filled)
    (saved : u.map Held.filled = v.map Held.filled) :
    (⟨x, u⟩ : Session α).filled = (⟨y, v⟩ : Session α).filled := by
  rw [Session.filled, Session.filled, current, saved]

theorem Cached.compare_eq (c d : Cached α) :
    c.compare d = (c.encoding == d.encoding, c.encode.2, d.encode.2) := by
  rw [← encode_fst, ← encode_fst]
  rfl

variable [Form α] [LawfulFilling α]

namespace Record

theorem fields_settle (x : α) : fields (settle x) = fields x := by
  rw [← LawfulFilling.fields_filled (settle x), LawfulFilling.filled_settle,
    LawfulFilling.fields_filled]

theorem encodeFresh_filled (x : α) : encodeFresh (filled x) = encodeFresh x := by
  rw [encodeFresh, encodeFresh, layout, layout, LawfulFilling.fields_filled]

theorem encodeFresh_settle (x : α) : encodeFresh (settle x) = encodeFresh x := by
  rw [encodeFresh, encodeFresh, layout, layout, fields_settle]

theorem estimate_filled (x : α) : estimate (filled x) = estimate x := by
  rw [estimate, estimate, layout, layout, LawfulFilling.fields_filled]

end Record

namespace Cached

theorem filled_filled (c : Cached α) : c.filled.filled = c.filled := by
  show (⟨Record.filled (Record.filled c.fields), some c.encoding⟩ : Cached α) = _
  rw [LawfulFilling.filled_filled]
  rfl

/-- A record without its encoding is told by its fields. -/
theorem filled_unencoded {x y : α} (h : Record.filled x = Record.filled y) :
    (⟨x, none⟩ : Cached α).filled = (⟨y, none⟩ : Cached α).filled := by
  have fresh : Record.encodeFresh x = Record.encodeFresh y := by
    rw [← Record.encodeFresh_filled x, h, Record.encodeFresh_filled]
  show (⟨_, some (Record.encodeFresh x)⟩ : Cached α) = ⟨_, some (Record.encodeFresh y)⟩
  rw [h, fresh]

theorem filled_encode (c : Cached α) : c.encode.2.filled = c.filled := by
  obtain ⟨fields, wire?⟩ := c
  cases wire? with
  | some b => rfl
  | none =>
    show (⟨Record.filled (Record.settle fields), some (Record.encodeFresh fields)⟩ : Cached α) = _
    rw [LawfulFilling.filled_settle]
    rfl

theorem filled_settled (c : Cached α) : c.settled.filled = c.filled := by
  have encoding : c.settled.encoding = c.encoding := by
    rw [Cached.encoding, Cached.encoding, settled, Record.encodeFresh_settle]
  show (⟨Record.filled (Record.settle c.fields), some c.settled.encoding⟩ : Cached α) = _
  rw [LawfulFilling.filled_settle, encoding]
  rfl

/-- Encoding the record inside alone. -/
theorem filled_withFilled (c : Cached α) :
    ({ c with fields := Record.filled c.fields }).filled = c.filled := by
  have encoding : ({ c with fields := Record.filled c.fields }).encoding = c.encoding := by
    rw [Cached.encoding, Cached.encoding, Record.encodeFresh_filled]
  show (⟨Record.filled (Record.filled c.fields), some (Cached.encoding _)⟩ : Cached α) = _
  rw [LawfulFilling.filled_filled, encoding]
  rfl

end Cached

/-! ### Single operations -/

theorem Held.filled_filled (h : Held α) : h.filled.filled = h.filled :=
  filled_withCached h.toCached.filled_filled h

theorem Session.filled_filled (s : Session α) : s.filled.filled = s.filled := by
  refine filled_eq s.current.filled_filled ?_
  rw [Option.map_map]
  congr 1
  funext h
  exact h.filled_filled

variable {ε : Type} [Editable α ε]

namespace Session

/-- An operation gives the same whether or not the encodings were filled in before it. -/
theorem outcome_filled (s : Session α) (op : Operation ε) :
    (s.filled.step op).1 = (s.step op).1 := by
  obtain ⟨current, saved?⟩ := s
  have fields : (Session.filled ⟨current, saved?⟩).current.fields = Record.filled current.fields :=
    rfl
  cases op with
  | edit change => rfl
  | editHeader change => rfl
  | decode b =>
    rw [step, step, Held.decode, Held.decode]
    cases (Cached.ofBlock b : Except PacketError (Cached α)) <;> rfl
  | encode => exact congrArg Outcome.encoded (Cached.encode_fst current.toCached).symm
  | encodeNested =>
    have nested := LawfulFilling.nested_filled current.fields
    rw [step, step, fields]
    cases before : Record.encodeNested? current.fields with
    | none =>
      rw [before, Option.map_none, Option.map_eq_none_iff] at nested
      rw [nested]
    | some found =>
      rw [before, Option.map_some, Option.map_eq_some_iff] at nested
      obtain ⟨found', after, same⟩ := nested
      rw [after]
      exact congrArg Outcome.encoded same
  | toBytes =>
    rw [step, step, fields, Record.encodeFresh_filled]
  | estimate =>
    rw [step, step, fields, Record.estimate_filled]
  | display =>
    rw [step, step, fields, LawfulFilling.text_filled]
  | json =>
    rw [step, step, fields, Form.toJson, LawfulFilling.members_filled]
    rfl
  | matchesName name =>
    rw [step, step, fields, LawfulFilling.matches_filled]
  | compareWire bs =>
    -- a comparison is one of encodings, and the filled form has the one that encoding would give
    rw [step, step]
    cases (Cached.ofWire bs : Except PacketError (Cached α)) with
    | error e => rfl
    | ok other =>
      simp only [Cached.compare_eq]
      rfl
  | save => rfl
  | compareSaved =>
    cases saved? with
    | none => rfl
    | some saved =>
      show Outcome.verdict (current.filled.compare saved.filled.toCached).1 =
        Outcome.verdict (current.compare saved.toCached).1
      rw [Cached.compare_eq, Cached.compare_eq]
      rfl
  | encodeSaved =>
    cases saved? with
    | none => rfl
    | some saved => exact congrArg Outcome.encoded (Cached.encode_fst saved.toCached).symm
  | swap => cases saved? <;> rfl

/-- An operation that only looks keeps the filled form. -/
theorem filled_step_of_observes (s : Session α) {op : Operation ε} (h : op.observes = true) :
    (s.step op).2.filled = s.filled := by
  obtain ⟨current, saved?⟩ := s
  cases op with
  | edit change => cases h
  | editHeader change => cases h
  | decode b => cases h
  | save => cases h
  | swap => cases h
  | encode => exact filled_eq (Held.filled_withCached current.filled_encode current) rfl
  | encodeNested =>
    rw [step]
    split
    · rename_i b x hx
      rw [Record.eq_filled_of_encodeNested hx]
      exact filled_eq (Held.filled_withCached current.filled_withFilled current) rfl
    · rfl
  | toBytes => exact filled_eq (Held.filled_withCached current.filled_settled current) rfl
  | estimate => exact filled_eq (Held.filled_withCached current.filled_settled current) rfl
  | display => rfl
  | json => rfl
  | matchesName name => rfl
  | compareWire bs =>
    rw [step]
    split
    · exact filled_eq (Held.filled_withCached current.filled_encode current) rfl
    · rfl
  | compareSaved =>
    cases saved? with
    | none => rfl
    | some saved =>
      exact filled_eq (Held.filled_withCached current.filled_encode current)
        (congrArg some (Held.filled_withCached saved.filled_encode saved))
  | encodeSaved =>
    cases saved? with
    | none => rfl
    | some saved =>
      exact filled_eq rfl (congrArg some (Held.filled_withCached saved.filled_encode saved))

end Session

end

/-! ### Runs of operations -/

namespace Session

section

variable {α ε : Type} [Record α] [Form α] [Editable α ε] [LawfulEdits α ε]

/-- An operation leaves the same filled form whether or not the encodings were filled in before
it. -/
theorem filled_step (s : Session α) (op : Operation ε) :
    (s.filled.step op).2.filled = (s.step op).2.filled := by
  cases h : op.observes with
  | true =>
    rw [filled_step_of_observes _ h, filled_step_of_observes _ h, filled_filled]
  | false =>
    -- only an edit reads the record; the other four put it aside, replace it or leave it
    obtain ⟨current, saved?⟩ := s
    have same := current.filled_filled
    have copy : (saved?.map Held.filled).map Held.filled = saved?.map Held.filled :=
      congrArg Session.saved? (filled_filled ⟨current, saved?⟩)
    cases op with
    | edit change =>
      refine filled_eq ?_ copy
      exact Held.filled_withCached (LawfulEdits.filled_apply change current.toCached) current
    | editHeader change =>
      refine filled_eq ?_ copy
      exact congrArg (Held.mk · _) current.toCached.filled_filled
    | decode b =>
      rw [step, step, Held.decode, Held.decode]
      cases (Cached.ofBlock b : Except PacketError (Cached α)) with
      | error e => exact filled_eq same copy
      | ok c => exact filled_eq rfl copy
    | save => exact filled_eq same (congrArg some same)
    | swap =>
      cases saved? with
      | none => exact filled_eq same rfl
      | some saved => exact filled_eq saved.filled_filled (congrArg some same)
    | _ => cases h

/-- Sessions with the same filled form give the same in every run, and stay that way. -/
theorem run_eq_of_filled_eq {s t : Session α} (h : s.filled = t.filled)
    (ops : List (Operation ε)) :
    (s.run ops).1 = (t.run ops).1 ∧ (s.run ops).2.filled = (t.run ops).2.filled := by
  -- on the run, for all sessions: a step takes both to sessions that again have one filled form
  induction ops generalizing s t with
  | nil => exact ⟨rfl, h⟩
  | cons op ops ih =>
    have outcome : (s.step op).1 = (t.step op).1 := by
      rw [← s.outcome_filled, h, t.outcome_filled]
    have next : (s.step op).2.filled = (t.step op).2.filled := by
      rw [← s.filled_step, h, t.filled_step]
    obtain ⟨outcomes, last⟩ := ih next
    refine ⟨?_, last⟩
    show (s.step op).1 :: ((s.step op).2.run ops).1 = (t.step op).1 :: ((t.step op).2.run ops).1
    rw [outcome, outcomes]

end

end Session

/-! ### All kinds -/

instance : LawfulFilling ReplicationSelectors where
instance : LawfulFilling LegacyReplicationSelectors where
instance : LawfulFilling StrategySelectors where
instance : LawfulFilling PdrmStrategySelectors where
instance : LawfulFilling Announcement where
instance : LawfulFilling Vicinity where
instance : LawfulFilling VicinityData where
instance : LawfulFilling FaceStatus where
instance : LawfulFilling ForwarderStatus where

instance : LawfulEdits ReplicationSelectors ReplicationSelectors.Edit where
  filled_apply change _ := by cases change <;> rfl

instance : LawfulEdits LegacyReplicationSelectors LegacyReplicationSelectors.Edit where
  filled_apply change _ := by cases change <;> rfl

instance : LawfulEdits StrategySelectors StrategySelectors.Edit where
  filled_apply change _ := by cases change <;> rfl

instance : LawfulEdits PdrmStrategySelectors PdrmStrategySelectors.Edit where
  filled_apply change _ := by cases change <;> rfl

instance : LawfulEdits Vicinity Vicinity.Edit where
  filled_apply change _ := by cases change <;> rfl

instance : LawfulEdits VicinityData VicinityData.Edit where
  filled_apply change _ := by cases change <;> rfl

instance : LawfulEdits FaceStatus FaceStatus.Edit where
  filled_apply change _ := by cases change <;> rfl

instance : LawfulEdits ForwarderStatus ForwarderStatus.Edit where
  filled_apply change _ := by cases change <;> rfl

namespace Announcement

/-- Setting a nonce patches the encoding that the announcement has or would get, and where there is
no room, the encoding becomes the one that the announcement would get with the new nonce. -/
theorem encoding_withNonce (n : UInt32) (c : Cached Announcement) :
    (withNonce n c).encoding =
      (patchNonce? c.encoding n).getD (Record.encodeFresh { c.fields with nonce := some n }) := by
  obtain ⟨a, wire?⟩ := c
  cases wire? with
  | some b => simp only [Cached.encoding, withNonce, Option.bind_some, Option.getD_some]
  | none =>
    -- nothing is patched here, but patching the fresh encoding would have come to the same
    simp only [Cached.encoding, withNonce, Option.bind_none, Option.getD_none]
    cases patched : patchNonce? (Record.encodeFresh a) n with
    | none => rw [Option.getD_none]
    | some p =>
      rw [Option.getD_some]
      exact (patchNonce_encodeFresh patched).symm

theorem filled_withNonce (n : UInt32) (c : Cached Announcement) :
    (withNonce n c.filled).filled = (withNonce n c).filled := by
  have same : (withNonce n c.filled).encoding = (withNonce n c).encoding := by
    rw [encoding_withNonce, encoding_withNonce]
    rfl
  show (⟨{ c.fields with nonce := some n }, some (withNonce n c.filled).encoding⟩ :
    Cached Announcement) = _
  rw [same]
  rfl

instance : LawfulEdits Announcement Edit where
  filled_apply change c := by
    cases change with
    | setName name => rfl
    | setTimeout timeout => rfl
    | setNonce nonce => exact filled_withNonce nonce c
    | ensureNonce draw =>
      show (Announcement.ensureNonce draw c.filled).filled =
        (Announcement.ensureNonce draw c).filled
      have nonce : c.filled.fields.nonce = c.fields.nonce := rfl
      rw [Announcement.ensureNonce, Announcement.ensureNonce, nonce]
      cases c.fields.nonce with
      | some old => exact c.filled_filled
      | none => exact filled_withNonce draw c
    | refreshNonce draws =>
      show (Announcement.refreshNonce draws c.filled).filled =
        (Announcement.refreshNonce draws c).filled
      have nonce : c.filled.fields.nonce = c.fields.nonce := rfl
      rw [Announcement.refreshNonce, Announcement.refreshNonce, nonce]
      cases c.fields.nonce with
      | none => exact c.filled_filled
      | some old =>
        simp only
        cases draws.find? (· ≠ old) with
        | none => exact c.filled_filled
        | some new => exact filled_withNonce new c

end Announcement

/-! ### Records inside others -/

/-- A record that holds no other is filled in by encoding it. -/
theorem Cached.encode_eq_filled {α : Type} [Record α] (settle : ∀ x : α, Record.settle x = x)
    (filled : ∀ x : α, Record.filled x = x) (c : Cached α) : c.encode.2 = c.filled := by
  obtain ⟨x, wire?⟩ := c
  cases wire? with
  | some b =>
    show (⟨x, some b⟩ : Cached α) = ⟨Record.filled x, some b⟩
    rw [filled]
  | none =>
    show (⟨Record.settle x, some (Record.encodeFresh x)⟩ : Cached α) =
      ⟨Record.filled x, some (Record.encodeFresh x)⟩
    rw [settle, filled]

namespace Nesting

variable {α β : Type} [Record α] [Record β] [Nesting α β]

theorem filled_eq_encodeInside (x : α) : Record.filled x = encodeInside x := by
  rw [Record.filled, encodeNested_eq]
  rfl

/-- Filling in a record is filling in the one inside. -/
theorem filled_eq (x : α) : Record.filled x = withInside x (inside x).filled := by
  have plain (y : β) : Record.filled y = y := by
    rw [Record.filled, encodeNested_inside α]
    rfl
  rw [filled_eq_encodeInside, encodeInside, Cached.encode_eq_filled (settle_inside α) plain]

/-- Records have the same filled form when they differ at most in the one inside, and that has the
same. -/
theorem filled_congr {x y : α} (others : withInside x (inside y) = y)
    (same : (inside x).filled = (inside y).filled) : Record.filled x = Record.filled y :=
  calc
    Record.filled x = withInside x (inside y).filled := by rw [filled_eq, same]
    _ = withInside (withInside x (inside y)) (inside y).filled :=
      (withInside_withInside x _ _).symm
    _ = Record.filled y := by rw [others, filled_eq]

variable [Form β]

/-- A change to the record inside comes to the same whether or not its encoding was filled in before
it. -/
theorem filled_apply_inside {δ : Type} [Editable β δ] [LawfulEdits β δ] (change : δ) (x : α) :
    Record.filled
        (withInside (Record.filled x) (Editable.apply change (inside (Record.filled x)))) =
      Record.filled (withInside x (Editable.apply change (inside x))) := by
  rw [filled_eq x, withInside_withInside, inside_withInside]
  refine filled_congr ?_ ?_
  · rw [inside_withInside, withInside_withInside]
  · rw [inside_withInside, inside_withInside]
    exact LawfulEdits.filled_apply change (inside x)

variable [LawfulFilling β]

theorem filled_inside (x : α) : (inside (Record.filled x)).filled = (inside x).filled := by
  rw [filled_eq, inside_withInside, (inside x).filled_filled]

include β

theorem filled_filled (x : α) : Record.filled (Record.filled x) = Record.filled x := by
  rw [filled_eq (Record.filled x), filled_inside, filled_eq, withInside_withInside]

/-- What is left to be known of a holder is that nothing of the encoding inside is shown. -/
theorem lawfulFilling [Form α]
    (members : ∀ x : α, Form.members (withInside x (inside x).filled) = Form.members x)
    (text : ∀ x : α, Form.text? (withInside x (inside x).filled) = Form.text? x)
    (matched : ∀ x : α, Form.matches? (withInside x (inside x).filled) = Form.matches? x) :
    LawfulFilling α where
  filled_filled := filled_filled
  filled_settle x := by
    rcases settle_cases x with same | same <;> rw [same]
    rw [← filled_eq_encodeInside, filled_filled]
  fields_filled x := by rw [filled_eq_encodeInside, fields_encodeInside]
  nested_filled x := by
    rw [encodeNested_eq, encodeNested_eq, filled_eq, inside_withInside]
    exact congrArg some (Cached.encode_fst (inside x)).symm
  members_filled x := by rw [filled_eq, members]
  text_filled x := by rw [filled_eq, text]
  matches_filled x := by rw [filled_eq, matched]

end Nesting

instance : LawfulFilling Hint :=
  Nesting.lawfulFilling (fun _ => rfl) (fun _ => rfl) fun _ => rfl

instance : LawfulFilling LegacyHint :=
  Nesting.lawfulFilling (fun _ => rfl) (fun _ => rfl) fun _ => rfl

instance : LawfulEdits Hint Hint.Edit where
  filled_apply change c := by
    have selectors := Nesting.filled_inside c.fields
    cases change with
    | setSelectors selectors => rfl
    | inSelectors edit =>
      exact Cached.filled_unencoded (Nesting.filled_apply_inside edit c.fields)
    | _ => exact Cached.filled_unencoded (Nesting.filled_congr rfl selectors)

instance : LawfulEdits LegacyHint LegacyHint.Edit where
  filled_apply change c := by
    have selectors := Nesting.filled_inside c.fields
    cases change with
    | setSelectors selectors => rfl
    | inSelectors edit =>
      exact Cached.filled_unencoded (Nesting.filled_apply_inside edit c.fields)
    | _ => exact Cached.filled_unencoded (Nesting.filled_congr rfl selectors)

namespace Kind

instance (k : Kind) : LawfulFilling k.recordType.Fields :=
  match k with
  | .announcement => inferInstanceAs (LawfulFilling Announcement)
  | .hint => inferInstanceAs (LawfulFilling Hint)
  | .legacyHint => inferInstanceAs (LawfulFilling LegacyHint)
  | .vicinity => inferInstanceAs (LawfulFilling Vicinity)
  | .vicinityData => inferInstanceAs (LawfulFilling VicinityData)
  | .replicationSelectors => inferInstanceAs (LawfulFilling ReplicationSelectors)
  | .legacyReplicationSelectors => inferInstanceAs (LawfulFilling LegacyReplicationSelectors)
  | .strategySelectors => inferInstanceAs (LawfulFilling StrategySelectors)
  | .pdrmStrategySelectors => inferInstanceAs (LawfulFilling PdrmStrategySelectors)
  | .faceStatus => inferInstanceAs (LawfulFilling FaceStatus)
  | .forwarderStatus => inferInstanceAs (LawfulFilling ForwarderStatus)

instance (k : Kind) : LawfulEdits k.recordType.Fields k.recordType.Edit :=
  match k with
  | .announcement => inferInstanceAs (LawfulEdits Announcement _)
  | .hint => inferInstanceAs (LawfulEdits Hint _)
  | .legacyHint => inferInstanceAs (LawfulEdits LegacyHint _)
  | .vicinity => inferInstanceAs (LawfulEdits Vicinity _)
  | .vicinityData => inferInstanceAs (LawfulEdits VicinityData _)
  | .replicationSelectors => inferInstanceAs (LawfulEdits ReplicationSelectors _)
  | .legacyReplicationSelectors => inferInstanceAs (LawfulEdits LegacyReplicationSelectors _)
  | .strategySelectors => inferInstanceAs (LawfulEdits StrategySelectors _)
  | .pdrmStrategySelectors => inferInstanceAs (LawfulEdits PdrmStrategySelectors _)
  | .faceStatus => inferInstanceAs (LawfulEdits FaceStatus _)
  | .forwarderStatus => inferInstanceAs (LawfulEdits ForwarderStatus _)

end Kind

/-! ### Runs with and without looking -/

/-- An operation in a run: one that stays there, or one that only looks and may be left out. -/
inductive Entry (ε : Type) where
  | stay (op : Operation ε)
  | look (op : Operation ε) (observes : op.observes = true)

namespace Entry

variable {ε : Type}

def operation : Entry ε → Operation ε
  | stay op => op
  | look op _ => op

/-- Whether the entry is one of those that stay. -/
def stays : Entry ε → Bool
  | stay _ => true
  | look _ _ => false

/-- What is left of a run when nobody looks. -/
def remaining (run : List (Entry ε)) : List (Operation ε) := (run.filter stays).map operation

end Entry

namespace Session

section

variable {α ε : Type} [Record α] [Form α] [Editable α ε]

/-- What the operations that stay give in a run of all. -/
def results (s : Session α) (run : List (Entry ε)) : List Outcome :=
  ((run.zip (s.run (run.map Entry.operation)).1).filter (·.1.stays)).map Prod.snd

variable [LawfulEdits α ε]

/-- A run in which somebody looks gives what the run gives in which nobody does. -/
theorem results_eq_run (s : Session α) (run : List (Entry ε)) :
    s.results run = (s.run (Entry.remaining run)).1 ∧
      (s.run (run.map Entry.operation)).2.filled = (s.run (Entry.remaining run)).2.filled := by
  induction run generalizing s with
  | nil => exact ⟨rfl, rfl⟩
  | cons entry run ih =>
    cases entry with
    | stay op =>
      obtain ⟨results, last⟩ := ih (s.step op).2
      exact ⟨congrArg ((s.step op).1 :: ·) results, last⟩
    | look op observes =>
      obtain ⟨results, last⟩ := ih (s.step op).2
      -- looking keeps the filled form, so what comes after is the same as without it
      obtain ⟨outcomes, same⟩ := run_eq_of_filled_eq (s.filled_step_of_observes observes)
        (Entry.remaining run)
      exact ⟨results.trans outcomes, last.trans same⟩

end

/-- Two runs on a record of any kind, with the same operations that stay and any others between them
that only look. The operations that stay give the same in both, and in the end both have the same
record and the same copy, except for which encodings are there already: filling in those of the
record, of the copy and of selectors inside makes them equal. -/
theorem results_eq_of_remaining_eq (k : Kind) (s : Session k.recordType.Fields)
    (run run' : List (Entry k.recordType.Edit))
    (same : Entry.remaining run = Entry.remaining run') :
    s.results run = s.results run' ∧
      (s.run (run.map Entry.operation)).2.filled =
        (s.run (run'.map Entry.operation)).2.filled := by
  obtain ⟨results, last⟩ := s.results_eq_run run
  obtain ⟨results', last'⟩ := s.results_eq_run run'
  rw [results, results', last, last', same]
  exact ⟨rfl, rfl⟩

/-- An announcement that was encoded has its nonce written over in place, and one that was not gets
no encoding from it. Both are encoded alike afterwards. -/
theorem results_eq_of_remaining_eq_setNonce :
    let s := start (Held.ofFields (Announcement.create ⟨[⟨[97]⟩]⟩ 1 none))
    let seven := Operation.edit (Announcement.Edit.setNonce 7)
    let looked : List (Entry Announcement.Edit) := [.look .encode rfl, .stay seven, .stay .encode]
    let unseen : List (Entry Announcement.Edit) :=
      [.stay seven, .look .json rfl, .look .toBytes rfl, .stay .encode]
    (s.run [.encode, seven]).2.current.hasWire = true ∧
      (s.run [seven]).2.current.hasWire = false ∧ s.results looked = s.results unseen := by
  intro s seven looked unseen
  have same : Entry.remaining looked = Entry.remaining unseen := rfl
  have results := results_eq_of_remaining_eq .announcement s looked unseen same
  exact ⟨by decide +kernel, rfl, results.1⟩

end Session

end NamedData
