/-
The encoding that a record keeps is never stale.

All eleven kinds are lawful, so what `NamedData.Proofs.Sound` proves of the histories of a lawful
record holds of all of them.  A record may have been constructed or decoded, its fields may have
been changed in any order, with the nonce written over inside an encoding that came from the
network, and it may have been copied, compared, exchanged with its copy and decoded anew.

* `Session.encodings_coherent` — after any such history an encoding that is kept, be it of the
  record, of the copy, or of the selectors inside, stands for the fields that are there now.
-/
import NamedData.Proofs.Hints
import NamedData.Proofs.Packets
import NamedData.Proofs.Status

namespace NamedData

/-! ### All kinds are lawful -/

namespace Kind

instance (k : Kind) : Invariant k.recordType.Fields :=
  match k with
  | .announcement => inferInstanceAs (Invariant Announcement)
  | .hint => inferInstanceAs (Invariant Hint)
  | .legacyHint => inferInstanceAs (Invariant LegacyHint)
  | .vicinity => inferInstanceAs (Invariant Vicinity)
  | .vicinityData => inferInstanceAs (Invariant VicinityData)
  | .replicationSelectors => inferInstanceAs (Invariant ReplicationSelectors)
  | .legacyReplicationSelectors => inferInstanceAs (Invariant LegacyReplicationSelectors)
  | .strategySelectors => inferInstanceAs (Invariant StrategySelectors)
  | .pdrmStrategySelectors => inferInstanceAs (Invariant PdrmStrategySelectors)
  | .faceStatus => inferInstanceAs (Invariant FaceStatus)
  | .forwarderStatus => inferInstanceAs (Invariant ForwarderStatus)

instance (k : Kind) : LawfulRecord k.recordType.Fields k.recordType.Edit :=
  match k with
  | .announcement => inferInstanceAs (LawfulRecord Announcement _)
  | .hint => inferInstanceAs (LawfulRecord Hint _)
  | .legacyHint => inferInstanceAs (LawfulRecord LegacyHint _)
  | .vicinity => inferInstanceAs (LawfulRecord Vicinity _)
  | .vicinityData => inferInstanceAs (LawfulRecord VicinityData _)
  | .replicationSelectors => inferInstanceAs (LawfulRecord ReplicationSelectors _)
  | .legacyReplicationSelectors => inferInstanceAs (LawfulRecord LegacyReplicationSelectors _)
  | .strategySelectors => inferInstanceAs (LawfulRecord StrategySelectors _)
  | .pdrmStrategySelectors => inferInstanceAs (LawfulRecord PdrmStrategySelectors _)
  | .faceStatus => inferInstanceAs (LawfulRecord FaceStatus _)
  | .forwarderStatus => inferInstanceAs (LawfulRecord ForwarderStatus _)

end Kind

/-! ### Kept encodings -/

namespace Session

/-- Whatever was done to a record of any kind, an encoding that it or its copy keeps has the type
number of the kind and decodes to the fields that are there now, rounded to what the wire carries;
except in status records nothing is rounded.  The same holds of the encodings that selectors inside
keep, and both levels agree: the selectors that are decoded with a hint are written as the bytes
that the hint's own selectors are written as. -/
theorem encodings_coherent (k : Kind) (first : Held k.recordType.Fields)
    (ops : List (Operation k.recordType.Edit)) (obtained : first.Obtained .received)
    (allowed : ∀ op ∈ ops, Operation.Allowed (α := k.recordType.Fields) .received op)
    (h : Held k.recordType.Fields) (held : h ∈ ((start first).run ops).2.records) :
    (∀ b, h.wire? = some b → Record.Fits h.fields →
      b.type = k.type ∧ ∃ c : Cached k.recordType.Fields, Cached.ofBlock b = .ok c ∧
        Usage.bare c.fields = Usage.onWire (Usage.bare h.fields) ∧
        (k.isStatus = false → Record.SameFields c.fields h.fields) ∧
        Record.encodeFresh c.fields = Record.encodeFresh h.fields) ∧
      Usage.NestedCoherent h.fields := by
  have sound : h.Sound .received :=
    sound_iff.mp (sound_run (sound_start obtained.sound) allowed) h held
  refine ⟨?_, LawfulRecord.nested_coherent sound.valid⟩
  intro b hb fits
  obtain ⟨type, c, hc, fields, written⟩ := sound.coherent b hb fits
  rw [k.kind_recordType] at type
  refine ⟨type, c, hc, fields, ?_, ?_⟩
  · intro unrounded
    rw [Record.SameFields, fields, Kind.onWire_eq_self unrounded]
  · simp only [Record.encodeFresh, Record.layout, written]

/-- An announcement is encoded and copied, and then its lifetime is changed. The copy keeps the
encoding. -/
theorem encodings_coherent_announcement :
    let s := ((start (Held.ofFields (Announcement.create ⟨[⟨[97]⟩]⟩ 7 none))).run
      [.encode, .save, .edit (.setTimeout (Duration.ofMillis 250))]).2
    ∃ copy b, s.saved? = some copy ∧ copy.wire? = some b ∧ b.type = 200 ∧
      ∃ c : Cached Announcement, Cached.ofBlock b = .ok c ∧ c.fields = copy.fields := by
  intro s
  have allowed : ∀ op ∈ [Operation.encode, .save,
      .edit (Announcement.Edit.setTimeout (Duration.ofMillis 250))],
      op.Allowed (α := Announcement) .received := by simp [Operation.Allowed, Usage.Allowed]
  have coherent := encodings_coherent .announcement _ _
    (.constructed (.inr ⟨⟨[⟨[97]⟩]⟩, 7, none, rfl⟩)) allowed _
    (List.mem_cons_of_mem _ List.mem_cons_self)
  have fits : Record.Fits (Announcement.create ⟨[⟨[97]⟩]⟩ 7 none) := ⟨by decide, trivial⟩
  obtain ⟨type, c, hc, -, same, -⟩ := coherent.1 _ rfl fits
  exact ⟨_, _, rfl, rfl, type, c, hc, same rfl⟩

end Session

end NamedData
