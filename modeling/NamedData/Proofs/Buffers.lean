/-
Counting bytes and writing them comes to the same.

Everything is encoded twice, first to learn its size and then into a buffer of that size.  What a
single step does to a sink is `Piece.prepends`, and what a layout does is `Layout.prepends`; both
hold of any sink that follows the law.  The estimator and the buffer follow it, so their counts
agree.  The buffer follows a stronger law too, which says that it keeps the store it was made with
for as long as the bytes fit (`EncodingBuffer.storeLaw`), and hence that the second pass fills it
to the brim and no further.

* `prepends_mapM` — what a sequence of steps does to a sink;
* `MeteredBuffer` — a buffer that counts how often it has to grow;
* `Layout.fillsEstimate` — writing a layout takes the room that was estimated;
* `encoders_agree` — both together, for all that the library encodes.
-/
import Mathlib.Algebra.GroupWithZero.Nat
import NamedData.Proofs.Coherence

namespace NamedData

/-! ### Sequences of steps -/

/-- The bytes that steps stand for when each goes in front of those before it. -/
def Piece.wireInFront (ps : List Piece) : Bytes := (ps.map Piece.wire).reverse.flatten

theorem Piece.wireInFront_cons (p : Piece) (ps : List Piece) :
    wireInFront (p :: ps) = wireInFront ps ++ p.wire := by
  simp [wireInFront]

theorem Piece.length_wireInFront (ps : List Piece) :
    (wireInFront ps).length = (ps.map fun p => p.wire.length).sum := by
  induction ps with
  | nil => rfl
  | cons p ps ih =>
    rw [wireInFront_cons, List.length_append, ih, List.map_cons, List.sum_cons, Nat.add_comm]

/-- Steps in a row: each tells how many bytes it stands for, and in the end the sink holds all of
them, those of the last step first. -/
theorem prepends_mapM {σ : Type} [Encoder σ] [LawfulEncoder σ] (ps : List Piece) (s : σ)
    (held : Bytes) (h : LawfulEncoder.Holds s held) :
    ((ps.mapM Piece.prepend).run s).1 = (ps.map fun p => p.wire.length) ∧
      LawfulEncoder.Holds ((ps.mapM Piece.prepend).run s).2 (Piece.wireInFront ps ++ held) := by
  induction ps generalizing s held with
  | nil => exact ⟨rfl, h⟩
  | cons p ps ih =>
    obtain ⟨count, holds⟩ := p.prepends s held h
    obtain ⟨counts, holdsAll⟩ := ih _ _ holds
    rw [List.mapM_cons, Piece.wireInFront_cons, List.append_assoc]
    refine ⟨?_, holdsAll⟩
    rw [List.map_cons, ← counts, ← count]
    rfl

/-! ### Room -/

namespace EncodingBuffer

/-- The buffer holds these bytes, and if they fit into `capacity` then its store has that size. -/
def HoldsWithin (capacity : Nat) (b : EncodingBuffer) (held : Bytes) : Prop :=
  b.contents = held ∧ (held.length ≤ capacity → b.store.length = capacity)

theorem HoldsWithin.prepend {capacity : Nat} {b : EncodingBuffer} {held : Bytes}
    (h : HoldsWithin capacity b held) (bs : Bytes) :
    HoldsWithin capacity (b.prepend bs) (bs ++ held) ∧
      ((bs ++ held).length ≤ capacity → bs.length ≤ b.start) := by
  obtain ⟨contents, store⟩ := h
  -- what is free in front is what the store has over the bytes held, so the next ones fit there
  have room (fits : (bs ++ held).length ≤ capacity) : bs.length ≤ b.start := by
    rw [List.length_append] at fits
    have size := store (by omega)
    have length := b.length_eq
    have start := b.start_le
    rw [EncodingBuffer.length, contents] at length
    omega
  refine ⟨⟨by rw [contents_prependBytes, contents], fun fits => ?_⟩, room⟩
  have enough := room fits
  have same : b.reserve bs.length = b := if_neg (by omega)
  have start := b.start_le
  rw [List.length_append] at fits
  have size := store (by omega)
  simp only [EncodingBuffer.prepend, same, List.length_append, List.length_take, List.length_drop]
  omega

theorem holdsWithin_withCapacity (capacity : Nat) :
    HoldsWithin capacity (withCapacity capacity) [] := by
  refine ⟨?_, fun _ => List.length_replicate⟩
  simp [withCapacity, contents]

@[reducible] def storeLaw (capacity : Nat) : LawfulEncoder EncodingBuffer where
  Holds := HoldsWithin capacity
  prependBytes _ _ bs h := ⟨rfl, (h.prepend bs).1⟩
  prependVarNumber _ _ _ h := ⟨rfl, (h.prepend _).1⟩
  prependInteger _ _ _ h := ⟨rfl, (h.prepend _).1⟩

/-- A buffer that holds as many bytes as its store has no room left, and its store is these
bytes. -/
theorem HoldsWithin.full {b : EncodingBuffer} {held : Bytes}
    (h : HoldsWithin held.length b held) : b.start = 0 ∧ b.store = held := by
  obtain ⟨contents, store⟩ := h
  have size := store (Nat.le_refl _)
  have length := b.length_eq
  have start := b.start_le
  rw [EncodingBuffer.length, contents] at length
  have zero : b.start = 0 := by omega
  rw [EncodingBuffer.contents, zero, List.drop_zero] at contents
  exact ⟨zero, contents⟩

attribute [ext] EncodingBuffer

end EncodingBuffer

/-- A buffer, and how many times it had to grow. -/
@[ext] structure MeteredBuffer where
  buffer : EncodingBuffer
  growths : Nat := 0

namespace MeteredBuffer

def withCapacity (capacity : Nat) : MeteredBuffer where
  buffer := .withCapacity capacity

instance : Encoder MeteredBuffer where
  prependBytes bs := fun m =>
    (bs.length,
      { buffer := m.buffer.prepend bs
        growths := if m.buffer.start < bs.length then m.growths + 1 else m.growths })

/-- The buffer holds the bytes, and it did not grow if they fit. -/
def HoldsWithin (capacity : Nat) (m : MeteredBuffer) (held : Bytes) : Prop :=
  m.buffer.HoldsWithin capacity held ∧ (held.length ≤ capacity → m.growths = 0)

theorem HoldsWithin.prepend {capacity : Nat} {m : MeteredBuffer} {held : Bytes}
    (h : HoldsWithin capacity m held) (bs : Bytes) :
    HoldsWithin capacity ((Encoder.prependBytes bs).run m).2 (bs ++ held) := by
  obtain ⟨holds, growths⟩ := h
  obtain ⟨stays, room⟩ := holds.prepend bs
  refine ⟨stays, fun fits => ?_⟩
  have enough := room fits
  rw [List.length_append] at fits
  show (if m.buffer.start < bs.length then m.growths + 1 else m.growths) = 0
  rw [if_neg (by omega)]
  exact growths (by omega)

theorem holdsWithin_withCapacity (capacity : Nat) :
    HoldsWithin capacity (withCapacity capacity) [] :=
  ⟨EncodingBuffer.holdsWithin_withCapacity capacity, fun _ => rfl⟩

@[reducible] def growthLaw (capacity : Nat) : LawfulEncoder MeteredBuffer where
  Holds := HoldsWithin capacity
  prependBytes _ _ bs h := ⟨rfl, h.prepend bs⟩
  prependVarNumber _ _ _ h := ⟨rfl, h.prepend _⟩
  prependInteger _ _ _ h := ⟨rfl, h.prepend _⟩

end MeteredBuffer

/-! ### Layouts -/

namespace Layout

/-- Writing the layout comes to what was estimated. -/
structure FillsEstimate (l : Layout) : Prop where
  /-- Into whatever buffer it is written, the count is the estimate, and so many bytes are added. -/
  count : ∀ b : EncodingBuffer, (l.prepend.run b).1 = l.estimate
  length : ∀ b : EncodingBuffer, (l.prepend.run b).2.length = b.length + l.estimate
  contents : ∀ b : EncodingBuffer, (l.prepend.run b).2.contents = l.wire ++ b.contents
  /-- The buffer that is made for it does not grow once, and has no room left in the end. -/
  growths : (l.prepend.run (MeteredBuffer.withCapacity l.estimate)).2 = ⟨l.buffer, 0⟩
  full : l.buffer.start = 0 ∧ l.buffer.store.length = l.estimate

theorem fillsEstimate (l : Layout) : l.FillsEstimate := by
  have written (b : EncodingBuffer) := l.prepends b b.contents rfl
  -- the second pass again under the stronger laws, as it is and with the meter on
  have stored := (@prepends _ _ (EncodingBuffer.storeLaw l.wire.length) l _ _
    (EncodingBuffer.holdsWithin_withCapacity _)).2
  have metered := (@prepends _ _ (MeteredBuffer.growthLaw l.wire.length) l _ _
    (MeteredBuffer.holdsWithin_withCapacity _)).2
  rw [List.append_nil] at stored metered
  obtain ⟨start, store⟩ := stored.full
  obtain ⟨start', store'⟩ := metered.1.full
  have growths : (l.prepend.run (MeteredBuffer.withCapacity l.wire.length)).2.growths = 0 :=
    metered.2 (Nat.le_refl _)
  rw [← l.estimate_eq] at start store start' store' growths
  refine ⟨fun b => ?_, fun b => ?_, fun b => (written b).2, ?_, start, ?_⟩
  · rw [l.estimate_eq]
    exact (written b).1
  · have held : (l.prepend.run b).2.contents = l.wire ++ b.contents := (written b).2
    rw [EncodingBuffer.length_eq, held, List.length_append, l.estimate_eq,
      EncodingBuffer.length_eq, Nat.add_comm]
  · exact MeteredBuffer.ext
      (EncodingBuffer.ext (store'.trans store.symm) (start'.trans start.symm)) growths
  · rw [l.estimate_eq]
    exact congrArg List.length store

end Layout

/-- The two sinks agree on any sequence of steps.  A buffer of any capacity ends up with the bytes
of the steps, those of the last step first, its length is the sum of the counts, and the estimator
gives the same counts.  So for a name, for a filter and for a record of any kind, what is written
into a buffer has the size that was estimated, and a buffer of just that size never grows and is
full in the end. -/
theorem encoders_agree :
    (∀ (capacity : Nat) (ps : List Piece),
      let written := (ps.mapM Piece.prepend).run (EncodingBuffer.withCapacity capacity)
      written.2.contents = (ps.map Piece.wire).reverse.flatten ∧
        written.2.length = written.1.sum ∧
        written.1 = (ps.map fun p => p.wire.length) ∧
        ((ps.mapM Piece.prepend).run (⟨⟩ : Estimator)).1 = written.1) ∧
    (∀ n : Name, n.layout.FillsEstimate) ∧ (∀ x : Exclude, x.layout.FillsEstimate) ∧
      ∀ (k : Kind) (x : k.recordType.Fields), (Record.layout x).FillsEstimate := by
  refine ⟨?_, fun n => n.layout.fillsEstimate, fun x => x.layout.fillsEstimate,
    fun _ x => (Record.layout x).fillsEstimate⟩
  intro capacity ps written
  obtain ⟨counts, holds⟩ := prepends_mapM ps (EncodingBuffer.withCapacity capacity) []
    (EncodingBuffer.holdsWithin_withCapacity capacity).1
  have estimates := (prepends_mapM ps (⟨⟩ : Estimator) [] trivial).1
  rw [List.append_nil] at holds
  refine ⟨holds, ?_, counts, estimates.trans counts.symm⟩
  have contents : written.2.contents = Piece.wireInFront ps := holds
  have sum : written.1 = _ := counts
  rw [EncodingBuffer.length_eq, contents, Piece.length_wireInFront, sum]

end NamedData
