/-
No element begins another.

The length in a header says where an element ends, so an element that comes off the front of a
buffer does so whatever follows (`decodeFirst_append`).  Hence nothing comes off the front of a
buffer that was cut off inside an element: put the missing bytes back, and that shorter element
would come first.  Decoding has only one thing to say of such a buffer, which is that it ends too
early (`decodeFirst_eq_error`), and a packet that was cut off or run into something else is refused
with an error about its own kind, once its type number can be read.

* `Element.decodeFirst_of_prefix` — no element comes off the front of a part of another;
* `VarNumber.read_of_prefix` — a type number is read from a part that holds all of it, and from no
  other;
* `Packet.prefix_free` — decoding elements and packets that were cut off or run on.
-/
import NamedData.Proofs.Dispatch
import NamedData.Proofs.Framing

namespace NamedData

/-! ### What an error says -/

/-- A number or a value is announced to be longer than what is left. -/
def TlvError.IsTruncation (e : TlvError) : Prop :=
  ∃ expected actual, actual < expected ∧ e = .truncated expected actual

namespace VarNumber

variable {bs v w : Bytes} {n : UInt64} {width : Nat} {cause : TlvError}

theorem read_eq_error (h : read bs = .error cause) : cause.IsTruncation := by
  cases bs with
  | nil =>
    cases h
    exact ⟨1, 0, by omega, rfl⟩
  | cons first rest =>
    simp only [read] at h
    split at h
    · cases h
    · split at h
      · rename_i short
        cases h
        exact ⟨_, _, short, rfl⟩
      · cases h

theorem read_append (h : read bs = .ok (n, width)) (rest : Bytes) :
    read (bs ++ rest) = .ok (n, width) := by
  have parts : bs ++ rest = bs.take width ++ (bs.drop width ++ rest) := by
    rw [← List.append_assoc, List.take_append_drop]
  rw [parts]
  exact read_take_append h _

/-- Of the bytes that begin with a number, a part that is long enough begins with the same number,
and a shorter one begins with none. -/
theorem read_of_prefix (part : v <+: w) (h : read w = .ok (n, width)) :
    (width ≤ v.length → read v = .ok (n, width)) ∧
      (v.length < width → ∃ cause, read v = .error cause) := by
  obtain ⟨rest, rfl⟩ := part
  constructor
  · intro whole
    have first := read_take_append h (v.drop width)
    rwa [List.take_append_of_le_length whole, List.take_append_drop] at first
  · intro short
    cases hv : read v with
    | error cause => exact ⟨cause, rfl⟩
    | ok first =>
      -- the same number would be read with the rest behind it, and it takes more bytes than that
      obtain ⟨m, size⟩ := first
      have bounds := read_bounds hv
      have same := read_append hv rest
      rw [h] at same
      cases same
      omega

end VarNumber

namespace Element

variable {bs v w rest : Bytes} {e : Element} {cause : TlvError}

theorem readHeader_eq_error (h : readHeader bs = .error cause) : cause.IsTruncation := by
  rcases bind_eq_error.mp h with h | ⟨⟨type, n⟩, -, h⟩
  · exact VarNumber.read_eq_error h
  · rcases bind_eq_error.mp h with h | ⟨⟨length, m⟩, -, h⟩
    · exact VarNumber.read_eq_error h
    · cases h

/-- There is only one reason why no element comes off the front of a buffer. -/
theorem decodeFirst_eq_error (h : decodeFirst bs = .error cause) : cause.IsTruncation := by
  rcases bind_eq_error.mp h with h | ⟨⟨type, length, offset⟩, -, h⟩
  · exact readHeader_eq_error h
  · simp only at h
    split at h
    · rename_i short
      cases h
      exact ⟨_, _, short, rfl⟩
    · cases h

/-- Nor is there another why a value does not split. -/
theorem split_eq_error (h : split bs = .error cause) : cause.IsTruncation := by
  obtain ⟨offset, framing⟩ := Dump.split_eq_error_iff.mp h
  obtain ⟨_, _, same, -, -, refused⟩ := Dump.frames_eq_error_iff.mp framing
  cases same
  exact decodeFirst_eq_error refused

/-! ### Elements that are cut off or run on -/

/-- What comes off the front of a buffer does so with more bytes behind. -/
theorem decodeFirst_append (h : decodeFirst bs = .ok (e, rest)) (s : Bytes) :
    decodeFirst (bs ++ s) = .ok (e, rest ++ s) := by
  rw [← decodeFirst_wire h, List.append_assoc]
  exact decodeFirst_wire_append (wellFormed_of_decodeFirst h) _

theorem type_of_decodeFirst (h : decodeFirst bs = .ok (e, rest)) :
    ∃ width, VarNumber.read bs = .ok (e.type, width) := by
  obtain ⟨length, offset, header, -⟩ := decodeFirst_eq_ok h
  obtain ⟨⟨type, width⟩, read, header⟩ := bind_eq_ok.mp header
  obtain ⟨second, -, header⟩ := bind_eq_ok.mp header
  cases header
  exact ⟨width, read⟩

/-- No element comes off the front of a part of another. -/
theorem decodeFirst_of_prefix (h : decodeFirst w = .ok (e, [])) (part : v <+: w) (cut : v ≠ w) :
    ∃ cause, decodeFirst v = .error cause := by
  obtain ⟨missing, rfl⟩ := part
  cases hv : decodeFirst v with
  | error cause => exact ⟨cause, rfl⟩
  | ok first =>
    obtain ⟨shorter, behind⟩ := first
    have same := decodeFirst_append hv missing
    rw [h] at same
    injection same with same
    injection same with _ nothing
    -- so nothing was missing
    rw [(List.append_eq_nil_iff.mp nothing.symm).2, List.append_nil] at cut
    exact absurd rfl cut

end Element

namespace Block

variable {b : Block} {v w rest : Bytes} {cause : TlvError}

theorem decodeFirst_append (h : decodeFirst w = .ok (b, rest)) (s : Bytes) :
    decodeFirst (w ++ s) = .ok (b, rest ++ s) := by
  obtain ⟨⟨e, behind⟩, he, same⟩ := map_eq_ok.mp h
  cases same
  exact map_eq_ok.mpr ⟨_, Element.decodeFirst_append he s, rfl⟩

/-- A buffer is decoded by taking its first block off and looking at what is left. -/
theorem decode_eq_bind (bs : Bytes) : decode bs = decodeFirst bs >>= fun (b, rest) =>
    if rest.isEmpty then .ok b else .error (.trailingBytes rest.length) := by
  rw [decode, decodeFirst, Element.decode]
  cases Element.decodeFirst bs with
  | error cause => rfl
  | ok first =>
    obtain ⟨e, rest⟩ := first
    cases rest <;> rfl

theorem decodeFirst_of_decode (h : decode w = .ok b) : decodeFirst w = .ok (b, []) := by
  rw [decode_eq_bind] at h
  obtain ⟨⟨first, rest⟩, decoded, h⟩ := bind_eq_ok.mp h
  cases rest with
  | nil =>
    cases h
    exact decoded
  | cons byte rest => cases h

theorem decode_of_decodeFirst_error (h : decodeFirst v = .error cause) :
    decode v = .error cause := by
  rw [decode_eq_bind, h]
  rfl

/-- Bytes behind a block are too many. -/
theorem decode_append (h : decode w = .ok b) {s : Bytes} (more : s ≠ []) :
    decode (w ++ s) = .error (.trailingBytes s.length) := by
  rw [decode_eq_bind, decodeFirst_append (decodeFirst_of_decode h) s, List.nil_append, ok_bind]
  exact if_neg (by simpa using more)

/-- A part of a block ends too early. -/
theorem decode_of_prefix (h : decode w = .ok b) (part : v <+: w) (cut : v ≠ w) :
    ∃ cause : TlvError, cause.IsTruncation ∧ decodeFirst v = .error cause ∧
      decode v = .error cause := by
  obtain ⟨⟨e, rest⟩, he, same⟩ := map_eq_ok.mp (decodeFirst_of_decode h)
  cases same
  obtain ⟨cause, refused⟩ := Element.decodeFirst_of_prefix he part cut
  have first : decodeFirst v = .error cause := map_eq_error.mpr refused
  exact ⟨cause, Element.decodeFirst_eq_error refused, first, decode_of_decodeFirst_error first⟩

theorem type_of_decode (h : decode w = .ok b) :
    ∃ width, VarNumber.read w = .ok (b.type, width) := by
  obtain ⟨⟨e, rest⟩, he, same⟩ := map_eq_ok.mp (decodeFirst_of_decode h)
  cases same
  exact Element.type_of_decodeFirst he

end Block

/-! ### Packets that are cut off or run on -/

namespace Packet

variable {schema : SchemaVersion} {bs : Bytes} {t : UInt64} {width : Nat} {k : Kind}
  {cause : TlvError}

theorem ofWire_of_decode_error (h : Block.decode bs = .error cause) :
    ofWire schema bs = .error (framingError bs cause) := by
  rw [ofWire, h]

theorem framingError_of_read (h : VarNumber.read bs = .ok (t, width))
    (known : Kind.ofType? t = some k) : framingError bs cause = .element k cause := by
  simp only [framingError, h, known]

theorem framingError_of_unreadable {unreadable : TlvError}
    (h : VarNumber.read bs = .error unreadable) : framingError bs cause = .malformed cause := by
  simp only [framingError, h]

/-- If a byte string is one element, then any part of it from its beginning ends too early, whether
one element is to be decoded or the first of several, and nothing else is found wrong.  With more
bytes behind, the element still comes off the front, with all of its bytes and no others, and if one
element is to be decoded then these are too many.  If it is a packet, then parts and longer byte
strings are refused under either schema with these errors about its kind, except that nothing is
known of a kind before the last byte of the type number. -/
theorem prefix_free {w : Bytes} {b : Block} (h : Block.decode w = .ok b) :
    (∀ v, v <+: w → v ≠ w → ∃ expected actual, actual < expected ∧
      Block.decodeFirst v = .error (.truncated expected actual) ∧
      Block.decode v = .error (.truncated expected actual)) ∧
    (b.wire = w ∧ ∀ s, Block.decodeFirst (w ++ s) = .ok (b, s)) ∧
    (∀ s, s ≠ [] → Block.decode (w ++ s) = .error (.trailingBytes s.length)) ∧
    ∀ schema p, ofWire schema w = .ok p →
      ∃ width, VarNumber.read w = .ok (p.kind.type, width) ∧ ∀ other,
        (∀ v, v <+: w → v ≠ w → ∃ expected actual, actual < expected ∧
          ofWire other v = .error (if width ≤ v.length
            then .element p.kind (.truncated expected actual)
            else .malformed (.truncated expected actual))) ∧
        ∀ s, s ≠ [] →
          ofWire other (w ++ s) = .error (.element p.kind (.trailingBytes s.length)) := by
  refine ⟨?_, ⟨(Block.decode_eq_ok_iff.mp h).2.2, ?_⟩, fun s => Block.decode_append h, ?_⟩
  · intro v part cut
    obtain ⟨cause, ⟨expected, actual, less, rfl⟩, first, only⟩ := Block.decode_of_prefix h part cut
    exact ⟨expected, actual, less, first, only⟩
  · intro s
    exact Block.decodeFirst_append (Block.decodeFirst_of_decode h) s
  · intro schema p accepted
    obtain ⟨block, decoded, known, -⟩ := marked_of_ofWire accepted
    rw [h] at decoded
    cases decoded
    rw [← kind_eq] at known
    obtain ⟨width, read⟩ := Block.type_of_decode h
    refine ⟨width, by rwa [Kind.type_of_ofType known], fun other => ⟨?_, ?_⟩⟩
    · intro v part cut
      obtain ⟨cause, ⟨expected, actual, less, rfl⟩, -, only⟩ := Block.decode_of_prefix h part cut
      refine ⟨expected, actual, less, ?_⟩
      rw [ofWire_of_decode_error only]
      obtain ⟨readable, unreadable⟩ := VarNumber.read_of_prefix part read
      split
      · rename_i whole
        rw [framingError_of_read (readable whole) known]
      · rename_i short
        obtain ⟨cause, failed⟩ := unreadable (by omega)
        rw [framingError_of_unreadable failed]
    · intro s more
      rw [ofWire_of_decode_error (Block.decode_append h more),
        framingError_of_read (VarNumber.read_append read s) known]

/-- Selectors of a strategy whose type number takes three bytes and whose length takes five: cut off
inside the one, cut off inside the other, and with a byte too many. -/
theorem prefix_free_wide :
    let w : Bytes := [253, 0, 205, 254, 0, 0, 0, 2, 215, 0]
    let b := Block.ofElement ⟨205, [253, 0, 205, 254, 0, 0, 0, 2], [215, 0]⟩
    (∃ p, Block.decode w = .ok b ∧ ofWire .current w = .ok p ∧ p.kind = .strategySelectors) ∧
    (∃ expected actual, Block.decode [253, 0] = .error (.truncated expected actual)) ∧
    (∃ expected actual, ofWire .legacy [253, 0] =
      .error (.malformed (.truncated expected actual))) ∧
    (∃ expected actual, ofWire .legacy [253, 0, 205, 254, 0] =
      .error (.element .strategySelectors (.truncated expected actual))) ∧
    Block.decodeFirst (w ++ [7]) = .ok (b, [7]) ∧
    ofWire .current (w ++ [7]) = .error (.element .strategySelectors (.trailingBytes 1)) := by
  intro w b
  have decoded : Block.decode w = .ok b := rfl
  let flag : Element := ⟨215, [215, 0], []⟩
  have split : Element.split [215, 0] = .ok [flag] :=
    Element.split_eq_ok_iff.mpr ⟨List.forall_mem_singleton.mpr ⟨0, rfl, rfl⟩, rfl⟩
  have parsed : b.parse = .ok ⟨b.element, some [flag]⟩ := map_eq_ok.mpr ⟨_, split, rfl⟩
  let c : Cached StrategySelectors := ⟨{ interested := true }, some ⟨b.element, some [flag]⟩⟩
  have selectors : Cached.ofBlock b = .ok c :=
    Record.ofBlock_eq_ok_iff.mpr ⟨rfl, _, parsed, rfl, rfl⟩
  have accepted : ofWire .current w = .ok (.strategySelectors c) :=
    ofWire_eq_ok_iff.mpr ⟨b, decoded, ofBlock_eq_ok_iff.mpr
      ⟨.strategySelectors, rfl, map_eq_ok.mpr ⟨c, selectors, rfl⟩⟩⟩
  obtain ⟨parts, ⟨-, first⟩, -, packets⟩ := prefix_free decoded
  obtain ⟨width, read, refused⟩ := packets _ _ accepted
  cases read
  refine ⟨⟨_, decoded, accepted, rfl⟩, ?_, ?_, ?_, first [7], (refused .current).2 [7] (by decide)⟩
  · obtain ⟨expected, actual, -, -, only⟩ := parts [253, 0] ⟨_, rfl⟩ (by decide)
    exact ⟨expected, actual, only⟩
  · obtain ⟨expected, actual, -, only⟩ := (refused .legacy).1 [253, 0] ⟨_, rfl⟩ (by decide)
    exact ⟨expected, actual, only⟩
  · obtain ⟨expected, actual, -, only⟩ :=
      (refused .legacy).1 [253, 0, 205, 254, 0] ⟨_, rfl⟩ (by decide)
    exact ⟨expected, actual, only⟩

end Packet

end NamedData
