/-
The local control header does not interfere with the packet beside it.

A session is two things side by side: the record and its copy with the encodings they keep
(`Session.cached`), and what the link layer noted about the two (`Session.notes`).  No operation
lets the one depend on the other.  The notes come from the operations on the header alone, and
everything else comes from the other operations alone.

* `Session.step_eq_of_cached_eq` — what an operation gives, and the records after it, depend on the
  records before it and not on the notes;
* `Session.notes_step` — the notes after an operation depend on the notes before it, and only an
  operation on the header, a copy or an exchange makes any difference to them;
* `Session.observed_eq_of_withoutHeaders_eq` — so operations on the header can be put into a run,
  taken out of it and changed, and nothing else comes out differently.
-/
import NamedData.Proofs.Usage

namespace NamedData

/-- What the link layer noted about a record and about its copy, if there is one. -/
structure Notes where
  current : LocalControlHeader := {}
  saved? : Option LocalControlHeader := none
deriving DecidableEq, Repr

/-- The notes after an operation. A copy is made and exchanged together with what was noted about
the record, and no operation but those on the header changes what was noted. -/
def Notes.after {ε : Type} (n : Notes) : Operation ε → Notes
  | .editHeader change => { n with current := n.current.apply change }
  | .save => { n with saved? := some n.current }
  | .swap =>
    match n.saved? with
    | some saved => ⟨saved, some n.current⟩
    | none => n
  | _ => n

namespace Operation

variable {ε : Type}

def editsHeader : Operation ε → Bool
  | editHeader _ => true
  | _ => false

/-- What is left of a run without the operations on the header. -/
def withoutHeaders (ops : List (Operation ε)) : List (Operation ε) :=
  ops.filter fun op => !op.editsHeader

end Operation

namespace Session

section

variable {α : Type}

/-- The record and its copy with the encodings that they keep, without the headers. -/
def cached (s : Session α) : Cached α × Option (Cached α) :=
  (s.current.toCached, s.saved?.map Held.toCached)

/-- The headers of the record and of its copy. -/
def notes (s : Session α) : Notes := ⟨s.current.localControl, s.saved?.map Held.localControl⟩

/-- A session about which nothing was noted. -/
def unnoted (records : Cached α × Option (Cached α)) : Session α :=
  ⟨{ toCached := records.1 }, records.2.map fun c => { toCached := c }⟩

end

/-! ### Single operations -/

section

variable {α ε : Type} [Record α] [Form α] [Editable α ε]

/-- An operation comes to the same if nothing was noted. -/
theorem step_unnoted (s : Session α) (op : Operation ε) :
    ((unnoted s.cached).step op).1 = (s.step op).1 ∧
      ((unnoted s.cached).step op).2.cached = (s.step op).2.cached := by
  obtain ⟨⟨c, noted⟩, saved?⟩ := s
  have current : (unnoted (cached ⟨⟨c, noted⟩, saved?⟩)).current.toCached = c := rfl
  cases op with
  | decode b =>
    rw [step, step, Held.decode, Held.decode]
    cases (Cached.ofBlock b : Except PacketError (Cached α)) <;> cases saved? <;> exact ⟨rfl, rfl⟩
  | encodeNested =>
    rw [step, step, current]
    cases Record.encodeNested? c.fields <;> cases saved? <;> exact ⟨rfl, rfl⟩
  | compareWire bs =>
    rw [step, step]
    cases (Cached.ofWire bs : Except PacketError (Cached α)) <;> cases saved? <;> exact ⟨rfl, rfl⟩
  -- the others are told apart by the copy at most
  | _ => cases saved? <;> exact ⟨rfl, rfl⟩

/-- What an operation gives, and the records after it, depend on the records before it alone. -/
theorem step_eq_of_cached_eq {s t : Session α} (same : s.cached = t.cached) (op : Operation ε) :
    (s.step op).1 = (t.step op).1 ∧ (s.step op).2.cached = (t.step op).2.cached := by
  obtain ⟨outcome, records⟩ := s.step_unnoted op
  obtain ⟨outcome', records'⟩ := t.step_unnoted op
  rw [same] at outcome records
  exact ⟨outcome.symm.trans outcome', records.symm.trans records'⟩

/-- The notes after an operation depend on the notes before it alone. -/
theorem notes_step (s : Session α) (op : Operation ε) :
    (s.step op).2.notes = s.notes.after op := by
  obtain ⟨⟨c, noted⟩, saved?⟩ := s
  cases op with
  | decode b =>
    rw [step, Held.decode]
    cases (Cached.ofBlock b : Except PacketError (Cached α)) <;> rfl
  | encodeNested =>
    rw [step]
    split <;> rfl
  | compareWire bs =>
    rw [step]
    split <;> rfl
  | _ => cases saved? <;> rfl

end

/-! ### Runs -/

section

variable {α ε : Type} [Record α] [Form α] [Editable α ε]

/-- What each operation of a run gives, with the session after it. -/
def trace (s : Session α) : List (Operation ε) → List (Operation ε × Outcome × Session α)
  | [] => []
  | op :: ops => (op, s.step op) :: trace (s.step op).2 ops

/-- What is seen of a run by somebody who does not look at headers: what the other operations give,
and the record and the copy with their encodings after each. -/
def observed (s : Session α) (ops : List (Operation ε)) :
    List (Outcome × Cached α × Option (Cached α)) :=
  ((s.trace ops).filter (!·.1.editsHeader)).map fun entry => (entry.2.1, entry.2.2.cached)

theorem observed_cons (s : Session α) {op : Operation ε} (ops : List (Operation ε))
    (h : op.editsHeader = false) :
    s.observed (op :: ops) =
      ((s.step op).1, (s.step op).2.cached) :: (s.step op).2.observed ops := by
  rw [observed, trace, List.filter_cons, h]
  rfl

/-- A run is seen like the run without the operations on the header, from any session with the same
records. -/
theorem observed_withoutHeaders {s t : Session α} (same : s.cached = t.cached)
    (ops : List (Operation ε)) :
    s.observed ops = t.observed (Operation.withoutHeaders ops) ∧
      (s.run ops).2.cached = (t.run (Operation.withoutHeaders ops)).2.cached := by
  induction ops generalizing s t with
  | nil => exact ⟨rfl, same⟩
  | cons op ops ih =>
    cases h : op.editsHeader with
    | true =>
      -- the one run goes a step ahead, and the records stay the same
      obtain ⟨change, rfl⟩ : ∃ change, op = .editHeader change := by
        cases op with
        | editHeader change => exact ⟨change, rfl⟩
        | _ => cases h
      exact ih same
    | false =>
      have kept : Operation.withoutHeaders (op :: ops) = op :: Operation.withoutHeaders ops := by
        rw [Operation.withoutHeaders, List.filter_cons, h]
        rfl
      obtain ⟨outcome, records⟩ := step_eq_of_cached_eq same op
      obtain ⟨rest, last⟩ := ih records
      rw [kept, observed_cons s ops h, observed_cons t _ h, outcome, records, rest]
      exact ⟨rfl, last⟩

/-- What was noted in the end is what the operations made of what was noted in the beginning. -/
theorem notes_run (s : Session α) (ops : List (Operation ε)) :
    (s.run ops).2.notes = ops.foldl Notes.after s.notes := by
  induction ops generalizing s with
  | nil => rfl
  | cons op ops ih =>
    rw [List.foldl_cons, ← s.notes_step op]
    exact ih (s.step op).2

end

/-- Two runs on records of any kind that are alike at the start and may have different headers, with
the same operations except for those on the header.  The other operations give the same in both, and
leave the same record and the same copy, with the same encodings, one after another and to the end.
In each run the headers are at any time what the operations on the header made of them, and a copy
has and takes along its own. -/
theorem observed_eq_of_withoutHeaders_eq (k : Kind) (s t : Session k.recordType.Fields)
    (ops ops' : List (Operation k.recordType.Edit)) (start : s.cached = t.cached)
    (same : Operation.withoutHeaders ops = Operation.withoutHeaders ops') :
    s.observed ops = t.observed ops' ∧ (s.run ops).2.cached = (t.run ops').2.cached ∧
      ∀ n, (s.run (ops.take n)).2.notes = (ops.take n).foldl Notes.after s.notes ∧
        (t.run (ops'.take n)).2.notes = (ops'.take n).foldl Notes.after t.notes := by
  -- both runs are compared with what is left of them, run without notes
  obtain ⟨seen, last⟩ := observed_withoutHeaders start ops
  obtain ⟨seen', last'⟩ := observed_withoutHeaders (s := t) rfl ops'
  rw [seen, seen', last, last', same]
  refine ⟨rfl, rfl, ?_⟩
  intro n
  exact ⟨s.notes_run (ops.take n), t.notes_run (ops'.take n)⟩

/-- An announcement takes the face it came from through an encoding, a nonce and the decoding of
another packet, and the exchange with its copy brings back what was noted when that was made. -/
theorem observed_eq_of_withoutHeaders_eq_announcement :
    let first := Announcement.create ⟨[⟨[97]⟩]⟩ 1 none
    let s := start (Held.ofFields first)
    let t := start { Held.ofFields first with localControl := { nextHopFace := some 3 } }
    let received := Record.encodeFresh (Announcement.create ⟨[⟨[98]⟩]⟩ 2 none)
    let ops : List (Operation Announcement.Edit) :=
      [.encode, .save, .editHeader (.incomingFace 7), .edit (.setNonce 5), .compareSaved,
        .decode received, .decode (Block.ofElement (.make 7 [])), .display]
    let ops' : List (Operation Announcement.Edit) :=
      [.encode, .editHeader .clear, .save, .edit (.setNonce 5), .compareSaved, .decode received,
        .decode (Block.ofElement (.make 7 [])), .display]
    s.observed ops = t.observed ops' ∧
      (s.run ops).2.notes = ⟨{ incomingFace := some 7 }, some {}⟩ ∧
      (s.run (ops ++ [.swap])).2.notes = ⟨{}, some { incomingFace := some 7 }⟩ ∧
      (t.run (ops'.take 1)).2.notes = ⟨{ nextHopFace := some 3 }, none⟩ := by
  intro first s t received ops ops'
  have start : s.cached = t.cached := rfl
  have same : Operation.withoutHeaders ops = Operation.withoutHeaders ops' := rfl
  obtain ⟨seen, -, headers⟩ :=
    observed_eq_of_withoutHeaders_eq .announcement s t ops ops' start same
  have exchanged :=
    (observed_eq_of_withoutHeaders_eq .announcement s s (ops ++ [.swap]) _ rfl rfl).2.2 9
  exact ⟨seen, (headers 8).1, exchanged.1, (headers 1).2⟩

end Session

end NamedData
