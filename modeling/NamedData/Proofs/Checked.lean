/-
Decoding with every step checked.

The readers of this library take bytes off lists: a position past the end leaves the empty list and
a difference stops at zero.  On a buffer in memory nothing is so forgiving.  Here the readers run
as they do on such a buffer, by positions, and a sum past the greatest position, a difference below
zero, a slice or an index outside the buffer, a copy onto a region of another length and a round of
a loop that makes no progress are each a `Fault`.

A buffer in memory has at most `maxLength` bytes, which leaves half of all positions behind its
end.  That is the only thing assumed: lengths and positions come from whoever sent the bytes.

* `VarNumber.readChecked_eq`, `Element.decodeAt_eq` — from any position, a reader gives what the
  reader on lists gives, without a fault, and a failure leaves the position where it was;
* `Block.parseChecked_runs`, `Block.findChecked_eq`, `Block.patchChecked_runs` — so do splitting,
  finding and patching in a block that fits into memory, whatever offset and bytes are asked for;
* `Dump.framesChecked_runs` — and so does cutting a dump into elements.
-/
import NamedData.Proofs.Framing
import NamedData.Proofs.Representation

namespace NamedData

/-- What must not happen while a buffer is read. -/
inductive Fault where
  /-- A sum is past the greatest position. -/
  | overflow
  /-- A difference is below zero. -/
  | underflow
  /-- A slice or an index is not inside the buffer. -/
  | outside
  /-- Bytes are copied onto a region of another length. -/
  | mismatch
  /-- A loop comes back to where it was. -/
  | endless
deriving DecidableEq, Repr

/-- A computation that stops at the first fault. -/
abbrev Checked := Except Fault

/-- A checked computation that may also fail as its caller expects. -/
abbrev Guarded (ε : Type) := ExceptT ε Checked

/-- The greatest length of a buffer in memory. -/
def maxLength : Nat := 2 ^ 63 - 1

theorem maxLength_lt_maxPosition : maxLength + 3 < maxPosition := by decide

namespace Checked

/-- The sum of two positions. -/
def add (m n : Nat) : Checked Nat :=
  if m + n ≤ maxPosition then .ok (m + n) else .error .overflow

/-- The difference of two positions. -/
def sub (m n : Nat) : Checked Nat :=
  if n ≤ m then .ok (m - n) else .error .underflow

/-- The byte at a position. -/
def index (bs : Bytes) (i : Nat) : Checked UInt8 :=
  match bs[i]? with
  | some b => .ok b
  | none => .error .outside

/-- The bytes from a position to another. -/
def slice (bs : Bytes) (start stop : Nat) : Checked Bytes :=
  if start ≤ stop ∧ stop ≤ bs.length then .ok ((bs.take stop).drop start) else .error .outside

/-- The buffer with the bytes from a position to another replaced. -/
def overwrite (buffer : Bytes) (start stop : Nat) (bs : Bytes) : Checked Bytes :=
  if start ≤ stop ∧ stop ≤ buffer.length then
    if bs.length = stop - start then .ok (buffer.take start ++ bs ++ buffer.drop stop)
    else .error .mismatch
  else .error .outside

/-- Positions a few bytes past the end of a buffer can still be counted. -/
theorem add_eq {m n : Nat} (h : m + n ≤ maxLength + 3) : add m n = .ok (m + n) :=
  if_pos (Nat.le_of_lt (Nat.lt_of_le_of_lt h maxLength_lt_maxPosition))

theorem sub_eq {m n : Nat} (h : n ≤ m) : sub m n = .ok (m - n) := if_pos h

theorem index_eq {bs : Bytes} {i : Nat} {b : UInt8} (h : bs[i]? = some b) :
    index bs i = .ok b := by
  rw [index, h]

theorem slice_eq {bs : Bytes} {start stop : Nat} (order : start ≤ stop)
    (inside : stop ≤ bs.length) : slice bs start stop = .ok ((bs.take stop).drop start) :=
  if_pos ⟨order, inside⟩

/-- What is left of a buffer from a position inside it. -/
theorem slice_rest {bs : Bytes} {start : Nat} (inside : start ≤ bs.length) :
    slice bs start bs.length = .ok (bs.drop start) := by
  rw [slice_eq inside (Nat.le_refl _), List.take_length]

theorem overwrite_eq {buffer bs : Bytes} {start stop : Nat} (order : start ≤ stop)
    (inside : stop ≤ buffer.length) (same : bs.length = stop - start) :
    overwrite buffer start stop bs = .ok (buffer.take start ++ bs ++ buffer.drop stop) := by
  rw [overwrite, if_pos ⟨order, inside⟩, if_pos same]

end Checked

/-! ### Running without a fault -/

/-- The computation meets no fault, and its outcome is `r`. -/
def Runs {ε α : Type} (x : Guarded ε α) (r : Except ε α) : Prop := x.run = .ok r

/-- A failure or a result, as the outcome of a computation that checks nothing. -/
def Guarded.of {ε α : Type} (r : Except ε α) : Guarded ε α := ExceptT.mk (pure r)

/-- A checked computation that does not fail. -/
def Guarded.step {ε α : Type} (x : Checked α) : Guarded ε α := ExceptT.lift x

namespace Runs

variable {ε α β : Type} {x : Guarded ε α} {r : Except ε α}

theorem of (r : Except ε α) : Runs (Guarded.of r) r := rfl

theorem pure (a : α) : Runs (Pure.pure a : Guarded ε α) (.ok a) := rfl

theorem throw (e : ε) : Runs (MonadExcept.throw e : Guarded ε α) (.error e) := rfl

theorem bind_error {f : α → Guarded ε β} {e : ε} (hx : Runs x (.error e)) :
    Runs (x >>= f) (.error e) := by
  show (x.run >>= ExceptT.bindCont f) = _
  rw [show x.run = .ok (.error e) from hx]
  rfl

theorem bind_ok {f : α → Guarded ε β} {s : Except ε β} {a : α} (hx : Runs x (.ok a))
    (hf : Runs (f a) s) : Runs (x >>= f) s := by
  show (x.run >>= ExceptT.bindCont f) = _
  rw [show x.run = .ok (.ok a) from hx]
  exact hf

/-- One computation after another. -/
theorem bind {f : α → Guarded ε β} {g : α → Except ε β} (hx : Runs x r)
    (hf : ∀ a, r = .ok a → Runs (f a) (g a)) : Runs (x >>= f) (r >>= g) := by
  cases r with
  | error e => exact hx.bind_error
  | ok a => exact hx.bind_ok (hf a rfl)

theorem map (f : α → β) (hx : Runs x r) : Runs (f <$> x) (r.map f) := by
  have steps := hx.bind (f := fun a => Pure.pure (f a)) fun a _ => Runs.pure (f a)
  rw [map_eq_pure_bind]
  cases r with
  | error e => exact steps
  | ok a => exact steps

/-- A checked step that is known to go well. -/
theorem step {y : Checked β} {b : β} {f : β → Guarded ε α} (hy : y = .ok b) (hf : Runs (f b) r) :
    Runs (Guarded.step y >>= f) r := by
  subst hy
  exact hf

theorem ite {c : Prop} [Decidable c] {y : Guarded ε α} {s : Except ε α} (hx : c → Runs x r)
    (hy : ¬ c → Runs y s) : Runs (if c then x else y) (if c then r else s) := by
  split
  · exact hx ‹_›
  · exact hy ‹_›

end Runs

/-- What a reader leaves behind that keeps its position: after a failure the position is where it
was. -/
def settled {ε α : Type} (position : Nat) : Except ε (α × Nat) → Except ε α × Nat
  | .ok (a, next) => (.ok a, next)
  | .error e => (.error e, position)

theorem settled_spec {ε α : Type} (position : Nat) (r : Except ε (α × Nat)) :
    r = (settled position r).1.map (·, (settled position r).2) ∧
      ∀ e, (settled position r).1 = .error e → (settled position r).2 = position := by
  cases r with
  | error e => exact ⟨rfl, fun _ _ => rfl⟩
  | ok found => exact ⟨rfl, nofun⟩

/-! ### Numbers -/

namespace VarNumber

open Checked

/-- The number that bytes stand for, shifted in one after another. -/
def shiftIn (bs : Bytes) : UInt64 := bs.foldl (fun n b => n <<< 8 ||| b.toUInt64) 0

/-- Reads a number at a position of a buffer: the number or why there is none, and the position
after that. -/
def readChecked (buffer : Bytes) (position : Nat) : Checked (Except TlvError UInt64 × Nat) :=
  match buffer[position]? with
  | none => return (.error (.truncated 1 0), position)
  | some first =>
    if tailWidth first = 0 then return (.ok first.toUInt64, ← add position 1)
    else do
      let width := tailWidth first
      let start ← add position 1
      let available ← sub buffer.length start
      if available < width then return (.error (.truncated width available), position)
      else
        let digits ← slice buffer start (← add start width)
        return (.ok (shiftIn digits), ← add start width)

theorem shift_or_eq (n : Nat) (b : UInt8) :
    UInt64.ofNat n <<< 8 ||| b.toUInt64 = UInt64.ofNat (n * 256 + b.toNat) := by
  have hb := b.toNat_lt
  -- shifting leaves the low byte empty, so putting a byte there is adding it
  have low : n % 2 ^ 64 * 2 ^ 8 % 2 ^ 64 = (n % 2 ^ 56) <<< 8 := by
    rw [Nat.shiftLeft_eq]
    omega
  have sum : (n % 2 ^ 56) <<< 8 ||| b.toNat = (n % 2 ^ 56) * 2 ^ 8 + b.toNat := by
    rw [← Nat.shiftLeft_add_eq_or_of_lt (by omega), Nat.shiftLeft_eq]
  apply UInt64.toNat_inj.mp
  rw [UInt64.toNat_or, UInt64.toNat_shiftLeft, UInt64.toNat_ofNat', UInt64.toNat_ofNat',
    UInt8.toNat_toUInt64, show (8 : UInt64).toNat % 64 = 8 from rfl, Nat.shiftLeft_eq, low, sum]
  omega

theorem shiftIn_eq (bs : Bytes) : shiftIn bs = UInt64.ofNat (ofBigEndian bs) := by
  have grow : ∀ (cs : Bytes) (n : Nat),
      cs.foldl (fun (m : UInt64) b => m <<< 8 ||| b.toUInt64) (UInt64.ofNat n) =
        UInt64.ofNat (cs.foldl (fun m b => m * 256 + b.toNat) n) := by
    intro cs
    induction cs with
    | nil => exact fun n => rfl
    | cons c cs ih =>
      intro n
      rw [List.foldl_cons, List.foldl_cons, shift_or_eq, ih]
  exact grow bs 0

/-- Reading at any position of a buffer whose length can be counted, past its end or not. -/
theorem readChecked_eq_of_counted {buffer : Bytes} (h : buffer.length ≤ maxPosition)
    (position : Nat) :
    readChecked buffer position = .ok (settled position (readAt buffer position)) := by
  -- no sum goes past the end of the buffer
  have counted {m n : Nat} (inside : m + n ≤ buffer.length) : add m n = .ok (m + n) :=
    if_pos (Nat.le_trans inside h)
  unfold readChecked readAt
  cases hb : buffer[position]? with
  | none =>
    rw [List.drop_eq_nil_of_le (List.getElem?_eq_none_iff.mp hb)]
    rfl
  | some first =>
    -- there is a byte at the position, so the position is inside the buffer
    obtain ⟨inside, rfl⟩ := List.getElem?_eq_some_iff.mp hb
    have start : add position 1 = .ok (position + 1) := counted inside
    have rest : (buffer.drop (position + 1)).length = buffer.length - (position + 1) :=
      List.length_drop
    rw [List.drop_eq_getElem_cons inside]
    simp only [read, start, sub_eq (show position + 1 ≤ buffer.length by omega), ok_bind, rest]
    split
    · rfl
    · split
      · rfl
      · rename_i enough
        rw [counted (by omega), ok_bind, slice_eq (by omega) (by omega),
          ok_bind, List.drop_take, Nat.add_sub_cancel_left, shiftIn_eq, Nat.add_assoc]
        rfl

/-- Reading at any position of a buffer in memory, past its end or not. -/
theorem readChecked_eq {buffer : Bytes} (h : buffer.length ≤ maxLength) (position : Nat) :
    readChecked buffer position = .ok (settled position (readAt buffer position)) := by
  have room := maxLength_lt_maxPosition
  exact readChecked_eq_of_counted (by omega) position

/-- Reads a number at a position of a buffer: its value and the position after it. -/
def readFrom (buffer : Bytes) (position : Nat) : Guarded TlvError (UInt64 × Nat) := do
  let (result, next) ← Guarded.step (readChecked buffer position)
  let n ← Guarded.of result
  return (n, next)

theorem readFrom_runs {buffer : Bytes} (h : buffer.length ≤ maxLength) (position : Nat) :
    Runs (readFrom buffer position) (readAt buffer position) := by
  refine Runs.step (readChecked_eq h position) ?_
  cases readAt buffer position with
  | error e => rfl
  | ok first => rfl

/-- The number that is read from a position takes what lies between there and the next one. -/
theorem readAt_bounds {buffer : Bytes} {position next : Nat} {n : UInt64}
    (h : readAt buffer position = .ok (n, next)) : position < next ∧ next ≤ buffer.length := by
  obtain ⟨⟨m, width⟩, hread, same⟩ := map_eq_ok.mp h
  cases same
  have bounds := read_bounds hread
  rw [List.length_drop] at bounds
  omega

end VarNumber

/-! ### Elements -/

namespace Element

open Checked

/-- Takes one element off the front of a buffer: the element and how many bytes it takes. -/
def decodePrefix (buffer : Bytes) : Guarded TlvError (Element × Nat) := do
  let (type, position) ← VarNumber.readFrom buffer 0
  let (length, position) ← VarNumber.readFrom buffer position
  let available ← Guarded.step (sub buffer.length position)
  if available < length.toNat then throw (.truncated length.toNat available)
  else
    let stop ← Guarded.step (add position length.toNat)
    let wire ← Guarded.step (slice buffer 0 stop)
    return (⟨type, wire.take position, wire.drop position⟩, stop)

/-- Taking an element off the front, said by positions in the buffer. -/
theorem decodeFirst_eq_readAt (bs : Bytes) :
    (decodeFirst bs).map (fun (e, _) => (e, e.size)) = (do
      let (type, position) ← VarNumber.readAt bs 0
      let (length, position) ← VarNumber.readAt bs position
      if bs.length - position < length.toNat then
        .error (.truncated length.toNat (bs.length - position))
      else
        let stop := position + length.toNat
        .ok (⟨type, (bs.take stop).take position, (bs.take stop).drop position⟩, stop)) := by
  unfold decodeFirst readHeader VarNumber.readAt
  cases h1 : VarNumber.read bs with
  | error e =>
    rw [List.drop_zero, h1]
    rfl
  | ok first =>
    obtain ⟨type, n⟩ := first
    rw [List.drop_zero, h1]
    simp only [ok_bind, map_ok, Nat.zero_add]
    cases h2 : VarNumber.read (bs.drop n) with
    | error e => rfl
    | ok second =>
      obtain ⟨length, m⟩ := second
      have bound := VarNumber.read_bounds h2
      simp only [List.length_drop] at bound
      simp only [ok_bind, map_ok, pure, Except.pure, List.length_drop]
      split
      · rfl
      · rename_i enough
        have front : (bs.take (n + m + length.toNat)).take (n + m) = bs.take (n + m) := by
          rw [List.take_take, Nat.min_eq_left (by omega)]
        have size : (bs.take (n + m)).length + ((bs.drop (n + m)).take length.toNat).length =
            n + m + length.toNat := by
          rw [List.length_take, List.length_take, List.length_drop]
          omega
        rw [map_ok, Element.size, Element.wire, List.length_append, size, front, List.drop_take,
          Nat.add_sub_cancel_left]

theorem decodePrefix_runs {buffer : Bytes} (h : buffer.length ≤ maxLength) :
    Runs (decodePrefix buffer) ((decodeFirst buffer).map fun (e, _) => (e, e.size)) := by
  rw [decodeFirst_eq_readAt]
  refine (VarNumber.readFrom_runs h 0).bind fun ⟨type, n⟩ _ => ?_
  refine (VarNumber.readFrom_runs h n).bind fun ⟨length, position⟩ hl => ?_
  have bounds := VarNumber.readAt_bounds hl
  refine Runs.step (sub_eq bounds.2) (Runs.ite (fun _ => Runs.throw _) fun enough => ?_)
  refine Runs.step (add_eq (by omega)) ?_
  refine Runs.step (slice_eq (Nat.zero_le _) (by omega)) ?_
  rw [List.drop_zero]
  exact Runs.pure _

theorem size_add_of_decodeFirst {bs rest : Bytes} {e : Element}
    (h : decodeFirst bs = .ok (e, rest)) : e.size + rest.length = bs.length := by
  rw [← decodeFirst_wire h, List.length_append]
  rfl

theorem drop_size_of_decodeFirst {bs rest : Bytes} {e : Element}
    (h : decodeFirst bs = .ok (e, rest)) : bs.drop e.size = rest := by
  rw [← decodeFirst_wire h]
  exact List.drop_left' rfl

/-- Takes the element at a position of a buffer, and the position after it. -/
def decodeAt (buffer : Bytes) (position : Nat) : Checked (Except TlvError Element × Nat) := do
  let rest ← slice buffer position buffer.length
  match ← (decodePrefix rest).run with
  | .ok (e, used) => return (.ok e, ← add position used)
  | .error cause => return (.error cause, position)

/-- Taking an element at any position inside a buffer in memory. -/
theorem decodeAt_eq {buffer : Bytes} (h : buffer.length ≤ maxLength) {position : Nat}
    (inside : position ≤ buffer.length) :
    decodeAt buffer position = .ok (settled position
      ((decodeFirst (buffer.drop position)).map fun (e, _) => (e, position + e.size))) := by
  have rest : (buffer.drop position).length = buffer.length - position := List.length_drop
  have runs := decodePrefix_runs (show (buffer.drop position).length ≤ maxLength by omega)
  unfold decodeAt
  rw [slice_rest inside, ok_bind, runs]
  cases hd : decodeFirst (buffer.drop position) with
  | error e => rfl
  | ok first =>
    obtain ⟨e, behind⟩ := first
    have size := size_add_of_decodeFirst hd
    show (add position e.size >>= _) = _
    rw [add_eq (by omega)]
    rfl

/-- Cuts a buffer into the elements that it is made of, in order. -/
def splitChecked (rest : Bytes) : Guarded TlvError (List Element) :=
  if rest.isEmpty then return []
  else do
    let (e, used) ← decodePrefix rest
    let next ← Guarded.step (slice rest used rest.length)
    if _progress : next.length < rest.length then return e :: (← splitChecked next)
    else Guarded.step (.error .endless)
termination_by rest.length

theorem splitChecked_runs {rest : Bytes} (h : rest.length ≤ maxLength) :
    Runs (splitChecked rest) (split rest) := by
  -- induction on how `split` goes through the buffer, one element at a time
  induction rest using split.induct with
  | case1 rest empty =>
    rw [splitChecked, split, if_pos empty, if_pos empty]
    exact Runs.pure _
  | case2 rest nonempty cause hd =>
    have first := decodePrefix_runs h
    rw [hd] at first
    rw [splitChecked, if_neg nonempty, split_of_decodeFirst_error (by simpa using nonempty) hd]
    exact first.bind_error
  | case3 rest nonempty e behind hd ih =>
    have first := decodePrefix_runs h
    rw [hd] at first
    have shorter := decodeFirst_rest_lt hd
    have size := size_add_of_decodeFirst hd
    rw [splitChecked, if_neg nonempty, split_of_decodeFirst hd]
    refine first.bind_ok ?_
    refine Runs.step (slice_rest (by omega)) ?_
    rw [drop_size_of_decodeFirst hd, dif_pos shorter]
    exact (ih (by omega)).map (e :: ·)

end Element

/-! ### Blocks -/

namespace Block

open Checked

/-- The block that a buffer is, when it is exactly one element. -/
def decodeChecked (buffer : Bytes) : Guarded TlvError Block := do
  let (e, used) ← Element.decodePrefix buffer
  if used = buffer.length then return ofElement e
  else
    let behind ← Guarded.step (sub buffer.length used)
    throw (.trailingBytes behind)

theorem decodeChecked_runs {buffer : Bytes} (h : buffer.length ≤ maxLength) :
    Runs (decodeChecked buffer) (decode buffer) := by
  have first := Element.decodePrefix_runs h
  unfold decode Element.decode
  cases hd : Element.decodeFirst buffer with
  | error cause =>
    rw [hd] at first
    exact first.bind_error
  | ok pair =>
    obtain ⟨e, behind⟩ := pair
    rw [hd] at first
    have total := Element.size_add_of_decodeFirst hd
    refine first.bind_ok ?_
    cases behind with
    | nil =>
      show Runs (if e.size = buffer.length then _ else _) _
      rw [if_pos (show e.size = buffer.length from total)]
      exact Runs.pure _
    | cons b bs =>
      rw [List.length_cons] at total
      show Runs (if e.size = buffer.length then _ else _) _
      rw [if_neg (by omega)]
      refine Runs.step (sub_eq (by omega)) ?_
      rw [← total, Nat.add_sub_cancel_left]
      exact Runs.throw _

/-- The block with its value split into children. -/
def parseChecked (b : Block) : Guarded TlvError Block :=
  match b.children? with
  | some _ => return b
  | none => do
    let rest ← Guarded.step (slice b.wire b.valueOffset b.size)
    let children ← Element.splitChecked rest
    return { b with children? := some children }

theorem parseChecked_runs {b : Block} (h : b.size ≤ maxLength) :
    Runs (parseChecked b) b.parse := by
  obtain ⟨e, children?⟩ := b
  cases children? with
  | some es => exact Runs.pure _
  | none =>
    have sum := e.size_eq
    have value : e.wire.drop e.valueOffset = e.value := List.drop_left' rfl
    have size : e.size ≤ maxLength := h
    refine Runs.step (b := e.value) ?_ ?_
    · show slice e.wire e.valueOffset e.wire.length = _
      rw [slice_rest (by show e.valueOffset ≤ e.size; omega), value]
    · exact (Element.splitChecked_runs (by omega)).map _

/-- The first element of a type in a list that begins at `offset`, with its own offset. -/
def findFromChecked (type : UInt64) : Nat → List Element → Checked (Option (Nat × Element))
  | _, [] => return none
  | offset, e :: rest =>
    if e.type = type then return some (offset, e)
    else do
      let next ← add offset e.size
      findFromChecked type next rest

/-- The offsets of elements can be counted when their bytes end inside a buffer. -/
theorem findFromChecked_eq {type : UInt64} {offset : Nat} {es : List Element}
    (h : offset + (Element.wireAll es).length ≤ maxLength) :
    findFromChecked type offset es = .ok (findFrom type offset es) := by
  induction es generalizing offset with
  | nil => rfl
  | cons e es ih =>
    rw [Element.wireAll_cons, List.length_append] at h
    have size : e.size = e.wire.length := rfl
    unfold findFromChecked findFrom
    split
    · rfl
    · rw [add_eq (by omega), ok_bind, ih (by omega)]

/-- The first child of a type and where it begins inside the encoding. -/
def findChecked (b : Block) (type : UInt64) : Checked (Option (Nat × Element)) :=
  findFromChecked type b.valueOffset b.children

theorem findChecked_eq {b : Block} (hb : b.WellFormed) (h : b.size ≤ maxLength) (type : UInt64) :
    findChecked b type = .ok (b.findWithOffset? type) := by
  have faithful := faithful_of_wellFormed hb
  refine findFromChecked_eq ?_
  have size := faithful.size
  cases split : b.isParsed with
  | false =>
    rw [faithful.unsplit split, Element.wireAll_nil, List.length_nil]
    omega
  | true =>
    rw [(faithful.split split).2.2]
    omega

/-- The block with `bs` written over its encoding from `offset` on. -/
def patchChecked (b : Block) (offset : Nat) (bs : Bytes) : Guarded TlvError Block := do
  -- a sum that stops at the greatest position instead of going past it
  let stop := min (offset + bs.length) maxPosition
  if offset < b.valueOffset ∨ b.size < stop then throw (.truncated stop b.size)
  else
    let buffer ← Guarded.step (overwrite b.wire offset stop bs)
    let patched ← decodeChecked buffer
    if b.isParsed then parseChecked patched else return patched

theorem patchChecked_runs {b : Block} (h : b.size ≤ maxLength) (offset : Nat) (bs : Bytes) :
    Runs (patchChecked b offset bs) (b.patch offset bs) := by
  have wire : b.size = b.wire.length := rfl
  have room := maxLength_lt_maxPosition
  unfold patchChecked patch
  refine Runs.ite (fun _ => Runs.throw _) fun region => ?_
  -- the end of the region is inside the block, so it is the sum itself
  have stop : min (offset + bs.length) maxPosition = offset + bs.length := by omega
  rw [stop] at region ⊢
  refine Runs.step (overwrite_eq (by omega) (by omega) (by omega)) ?_
  have length : (b.wire.take offset ++ bs ++ b.wire.drop (offset + bs.length)).length =
      b.size := by
    rw [List.length_append, List.length_append, List.length_take, List.length_drop]
    omega
  refine (decodeChecked_runs (by rw [length]; exact h)).bind fun patched hp => ?_
  refine Runs.ite (fun _ => parseChecked_runs ?_) fun _ => Runs.pure _
  have same := (decode_eq_ok_iff.mp hp).2.2
  show patched.wire.length ≤ _
  rw [same, length]
  exact h

end Block

/-! ### Dumps -/

namespace Dump

/-- The elements that a dump is made of from a position on, with the offsets where they begin. -/
def framesChecked (data : Bytes) (position : Nat) : Guarded DumpError (List (Nat × Element)) :=
  if _inside : position < data.length then do
    match ← Guarded.step (Element.decodeAt data position) with
    | (.error cause, left) => throw (.framing left cause)
    | (.ok e, next) =>
      if _progress : position < next then return (position, e) :: (← framesChecked data next)
      else Guarded.step (.error .endless)
  else return []
termination_by data.length - position

theorem framesChecked_runs {data : Bytes} (h : data.length ≤ maxLength) {position : Nat}
    (inside : position ≤ data.length) :
    Runs (framesChecked data position) (framesFrom position (data.drop position)) := by
  have step := Element.decodeAt_eq h inside
  have length : (data.drop position).length = data.length - position := List.length_drop
  rw [framesChecked]
  split
  · rename_i within
    refine Runs.step step ?_
    have nonempty : data.drop position ≠ [] := by
      intro empty
      rw [empty, List.length_nil] at length
      omega
    cases hd : Element.decodeFirst (data.drop position) with
    | error cause =>
      rw [framesFrom_of_decodeFirst_error nonempty hd]
      exact Runs.throw _
    | ok pair =>
      obtain ⟨e, rest⟩ := pair
      have size := Element.size_add_of_decodeFirst hd
      have shorter := Element.decodeFirst_rest_lt hd
      have next : data.drop (position + e.size) = rest := by
        rw [← List.drop_drop, Element.drop_size_of_decodeFirst hd]
      rw [framesFrom_of_decodeFirst hd, ← next]
      show Runs (if _progress : position < position + e.size then _ else _) _
      rw [dif_pos (by omega)]
      exact (framesChecked_runs h (by omega)).map _
  · rw [List.drop_eq_nil_of_le (by omega), framesFrom_nil]
    exact Runs.pure _
termination_by data.length - position

end Dump

end NamedData
