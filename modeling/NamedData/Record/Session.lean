/-
Sessions: a held record and a copy of it that may have been kept, with everything that can be done
to them as data.

Some operations only look: they give a result and may fill in encodings on the way, but leave all
fields as they are. `Operation.observes` tells them apart.

* `step` — what one operation gives, and the session after it;
* `run` — what a sequence of operations gives, one after another.
-/
import NamedData.Record.Form
import NamedData.Json.Printer

namespace NamedData

/-- Something done to a held record or to its kept copy. -/
inductive Operation (ε : Type) where
  /-- Changes a field. -/
  | edit (change : ε)
  /-- Changes the local control header. -/
  | editHeader (change : LocalControlHeader.Edit)
  /-- Replaces all fields by those of a block, if the block is such a record. -/
  | decode (b : Block)
  /-- Gives the encoding and keeps it. -/
  | encode
  /-- Gives the encoding of the record inside and keeps it there. -/
  | encodeNested
  /-- Encodes the fields afresh and gives the bytes. -/
  | toBytes
  /-- Gives the number of bytes that the fields take. -/
  | estimate
  /-- Gives the text. -/
  | display
  /-- Gives the JSON form. -/
  | json
  /-- Says whether the record matches a name. -/
  | matchesName (name : Name)
  /-- Says whether the record equals the one that a byte string stands for. -/
  | compareWire (bs : Bytes)
  /-- Keeps a copy, encodings included. -/
  | save
  /-- Says whether the record equals the copy. -/
  | compareSaved
  /-- Gives the encoding of the copy and keeps it there. -/
  | encodeSaved
  /-- Exchanges the record and the copy. -/
  | swap
deriving Repr

/-- What an operation gives. -/
inductive Outcome where
  /-- Nothing but the change it makes. -/
  | done
  /-- An encoding. -/
  | encoded (b : Block)
  /-- Bytes. -/
  | bytes (bs : Bytes)
  /-- A number of bytes. -/
  | size (n : Nat)
  /-- A text. -/
  | text (s : String)
  /-- A yes or no. -/
  | verdict (b : Bool)
  /-- The reason why it could not be done. -/
  | failed (e : PacketError)
deriving Repr

/-- A held record and the copy of it that was kept, if any. -/
structure Session (α : Type) where
  /-- The record. -/
  current : Held α
  /-- The copy. -/
  saved? : Option (Held α) := none
deriving Repr

namespace Session

variable {α ε : Type} [Record α] [Form α] [Editable α ε]

/-- The outcome of a question that does not arise for every kind. -/
def answered {β : Type} (f : β → Outcome) : Option β → Outcome
  | some b => f b
  | none => .done

/-- What an operation gives, and the session after it. -/
def step (s : Session α) : Operation ε → Outcome × Session α
  | .edit change =>
    (.done, { s with current := s.current.withCached (Editable.apply change s.current.toCached) })
  | .editHeader change =>
    (.done, { s with current :=
      { s.current with localControl := s.current.localControl.apply change } })
  | .decode b =>
    match s.current.decode b with
    | .ok held => (.done, { s with current := held })
    | .error e => (.failed e, s)
  | .encode =>
    let (b, c) := s.current.encode
    (.encoded b, { s with current := s.current.withCached c })
  | .encodeNested =>
    match Record.encodeNested? s.current.fields with
    | some (b, x) =>
      (.encoded b, { s with current := s.current.withCached { s.current.toCached with fields := x } })
    | none => (.done, s)
  | .toBytes =>
    (.bytes (Record.encodeFresh s.current.fields).wire,
      { s with current := s.current.withCached s.current.settled })
  | .estimate =>
    (.size (Record.estimate s.current.fields),
      { s with current := s.current.withCached s.current.settled })
  | .display => (answered .text (Form.text? s.current.fields), s)
  | .json => (.text (Form.toJson s.current.fields).text, s)
  | .matchesName name => (answered .verdict (Form.matches? s.current.fields name), s)
  | .compareWire bs =>
    match (Cached.ofWire bs : Except PacketError (Cached α)) with
    | .ok other =>
      let (equal, c, _) := s.current.toCached.compare other
      (.verdict equal, { s with current := s.current.withCached c })
    | .error e => (.failed e, s)
  | .save => (.done, { s with saved? := some s.current })
  | .compareSaved =>
    match s.saved? with
    | some saved =>
      let (equal, c, d) := s.current.toCached.compare saved.toCached
      (.verdict equal, ⟨s.current.withCached c, some (saved.withCached d)⟩)
    | none => (.done, s)
  | .encodeSaved =>
    match s.saved? with
    | some saved =>
      let (b, d) := saved.encode
      (.encoded b, { s with saved? := some (saved.withCached d) })
    | none => (.done, s)
  | .swap =>
    match s.saved? with
    | some saved => (.done, ⟨saved, some s.current⟩)
    | none => (.done, s)

/-- What a sequence of operations gives, and the session after them. -/
def run (s : Session α) : List (Operation ε) → List Outcome × Session α
  | [] => ([], s)
  | op :: ops =>
    let (outcome, s) := s.step op
    let (outcomes, s) := run s ops
    (outcome :: outcomes, s)

/-- A session on a record that was just made. -/
def start (held : Held α) : Session α := { current := held }

end Session

/-- Whether an operation only looks. -/
def Operation.observes {ε : Type} : Operation ε → Bool
  | .encode => true
  | .encodeNested => true
  | .toBytes => true
  | .estimate => true
  | .display => true
  | .json => true
  | .matchesName _ => true
  | .compareWire _ => true
  | .compareSaved => true
  | .encodeSaved => true
  | _ => false

end NamedData
