/-
A dump is decoded element by element, or not at all.

What is printed of an element, and whether it is counted as decoded or as failed, depends on the
element and, in text, on the offset that is printed with it; so the report on a dump is put together
from the reports on its elements.  But a dump is cut into elements before the first of them is
decoded, and where that fails nothing has been written yet.

* `Dump.framesFrom_add` — bytes are cut in the same way wherever they stand;
* `decodeFrames_append`, `output_decodeFrames` — the report on elements in a row;
* `lines_of_json` — in JSON every decoded element is one line;
* `decodeDump_elementwise` — what becomes of a dump in terms of its parts.
-/
import NamedData.Inspect.Workspace
import NamedData.Proofs.Framing
import NamedData.Proofs.JsonText

namespace NamedData

/-! ### Frames of a dump behind another -/

/-- The error in a dump when other bytes come before it. -/
def DumpError.behind (n : Nat) : DumpError → DumpError
  | .hex cause => .hex cause
  | .framing offset cause => .framing (n + offset) cause

namespace Dump

/-- The elements of a dump with their offsets when other bytes come before it. -/
def behind (n : Nat) (fs : List (Nat × Element)) : List (Nat × Element) :=
  fs.map fun f => (n + f.1, f.2)

theorem behind_behind (m n : Nat) (fs : List (Nat × Element)) :
    behind m (behind n fs) = behind (m + n) fs := by
  simp [behind, Nat.add_assoc]

theorem placed_add (n offset : Nat) (es : List Element) :
    placed (n + offset) es = behind n (placed offset es) := by
  induction es generalizing offset with
  | nil => rfl
  | cons e es ih =>
    rw [placed, placed, Nat.add_assoc, ih]
    rfl

/-- Bytes are cut into the same elements wherever they stand in a dump, and framing fails at the
same place. -/
theorem framesFrom_add (n : Nat) (bs : Bytes) :
    framesFrom n bs = ((frames bs).map (behind n)).mapError (DumpError.behind n) := by
  obtain ⟨es, rest, cause, wellFormed, rfl, stop⟩ := Element.exists_leading bs
  by_cases empty : rest = []
  · subst empty
    rw [framesFrom_wireAll_append wellFormed, List.append_nil, frames_wireAll wellFormed,
      framesFrom_nil, map_ok, List.append_nil]
    exact congrArg Except.ok (placed_add n 0 es)
  · rw [framesFrom_wireAll_append wellFormed, framesFrom_of_decodeFirst_error empty stop,
      frames_wireAll_append wellFormed empty stop]
    rfl

/-- A dump with whole elements in front of it. -/
theorem frames_append {a : Bytes} {fs : List (Nat × Element)} (h : frames a = .ok fs) (b : Bytes) :
    frames (a ++ b) = (((frames b).map fun gs => fs ++ behind a.length gs)).mapError
      (DumpError.behind a.length) := by
  obtain ⟨es, split, rfl⟩ := frames_eq_ok_iff.mp h
  obtain ⟨wellFormed, rfl⟩ := Element.split_eq_ok_iff.mp split
  rw [frames, framesFrom_wireAll_append wellFormed, Nat.zero_add, framesFrom_add]
  cases frames b <;> rfl

theorem frames_wire {e : Element} (h : e.WellFormed) : frames e.wire = .ok [(0, e)] := by
  have := frames_wireAll (List.forall_mem_singleton.mpr h)
  rwa [Element.wireAll_cons, Element.wireAll_nil, List.append_nil] at this

end Dump

namespace Inspect

/-! ### Reports on elements in a row -/

section

variable {schema : SchemaVersion} {json : Bool} {fs gs : List (Nat × Element)}

@[simp] theorem DecodeReport.decoded_append (a b : DecodeReport) :
    (a.append b).decoded = a.decoded + b.decoded := rfl

@[simp] theorem DecodeReport.failed_append (a b : DecodeReport) :
    (a.append b).failed = a.failed + b.failed := rfl

@[simp] theorem DecodeReport.output_append (a b : DecodeReport) :
    (a.append b).output = a.output ++ b.output := rfl

theorem DecodeReport.append_assoc (a b c : DecodeReport) :
    (a.append b).append c = a.append (b.append c) := by
  simp only [append, Nat.add_assoc, String.append_assoc, List.append_assoc]

theorem DecodeReport.empty_append (a : DecodeReport) : DecodeReport.append {} a = a := by
  simp [append]

/-- The report on elements in a row is made of the reports on two parts of the row. -/
theorem decodeFrames_append : decodeFrames schema json (fs ++ gs) =
    (decodeFrames schema json fs).append (decodeFrames schema json gs) := by
  induction fs with
  | nil => exact (DecodeReport.empty_append _).symm
  | cons f fs ih =>
    obtain ⟨offset, e⟩ := f
    rw [List.cons_append, decodeFrames, decodeFrames, ih, DecodeReport.append_assoc]

/-- The packet that an element is under a schema. -/
def packet? (schema : SchemaVersion) (e : Element) : Option Packet :=
  (Packet.ofBlock schema (Block.ofElement e)).toOption

/-- What is printed of an element: nothing if it is no packet. -/
def printedOf (schema : SchemaVersion) (json : Bool) (offset : Nat) (e : Element) : String :=
  ((packet? schema e).map (printed json offset)).getD ""

theorem decoded_decodeElement (offset : Nat) (e : Element) :
    (decodeElement schema json offset e).decoded = (packet? schema e).toList.length := by
  rw [decodeElement, packet?]
  cases Packet.ofBlock schema (Block.ofElement e) <;> rfl

theorem count_decodeElement (offset : Nat) (e : Element) :
    (decodeElement schema json offset e).decoded +
      (decodeElement schema json offset e).failed = 1 := by
  rw [decodeElement]
  cases Packet.ofBlock schema (Block.ofElement e) <;> rfl

theorem output_decodeElement (offset : Nat) (e : Element) :
    (decodeElement schema json offset e).output = printedOf schema json offset e := by
  rw [decodeElement, printedOf, packet?]
  cases Packet.ofBlock schema (Block.ofElement e) <;> rfl

/-- The packets among elements in a row. -/
def packets (schema : SchemaVersion) (fs : List (Nat × Element)) : List Packet :=
  fs.filterMap fun f => packet? schema f.2

theorem decoded_decodeFrames :
    (decodeFrames schema json fs).decoded = (packets schema fs).length := by
  induction fs with
  | nil => rfl
  | cons f fs ih =>
    obtain ⟨offset, e⟩ := f
    have first : (decodeElement schema json offset e).decoded = _ :=
      decoded_decodeElement offset e
    show (decodeElement schema json offset e).decoded + (decodeFrames schema json fs).decoded = _
    rw [first, ih, packets, packets]
    cases h : packet? schema e with
    | none => simp [h]
    | some p => simp [h, Nat.add_comm]

/-- Every element is counted once. -/
theorem count_decodeFrames :
    (decodeFrames schema json fs).decoded + (decodeFrames schema json fs).failed = fs.length := by
  induction fs with
  | nil => rfl
  | cons f fs ih =>
    obtain ⟨offset, e⟩ := f
    have first : (decodeElement schema json offset e).decoded + _ = 1 :=
      count_decodeElement offset e
    show (decodeElement schema json offset e).decoded + (decodeFrames schema json fs).decoded +
      ((decodeElement schema json offset e).failed + (decodeFrames schema json fs).failed) = _
    rw [List.length_cons]
    omega

/-- What is printed of elements in a row is what is printed of each. -/
theorem output_decodeFrames : (decodeFrames schema json fs).output =
    String.join (fs.map fun f => printedOf schema json f.1 f.2) := by
  induction fs with
  | nil => rfl
  | cons f fs ih =>
    obtain ⟨offset, e⟩ := f
    rw [List.map_cons, String.join_cons, ← ih, ← output_decodeElement]
    rfl

/-- An element that is no packet is counted, and nothing is printed of it. -/
theorem decodeFrames_cons_of_error {offset : Nat} {e : Element} {cause : PacketError}
    (h : Packet.ofBlock schema (Block.ofElement e) = .error cause) :
    decodeFrames schema json ((offset, e) :: fs) =
      DecodeReport.append { failed := 1, log := [failureEntry offset e cause] }
        (decodeFrames schema json fs) := by
  rw [decodeFrames, decodeElement, h]

/-! ### Offsets -/

theorem packets_behind (n : Nat) : packets schema (Dump.behind n fs) = packets schema fs :=
  List.filterMap_map

theorem decoded_behind (n : Nat) : (decodeFrames schema json (Dump.behind n fs)).decoded =
    (decodeFrames schema json fs).decoded := by
  rw [decoded_decodeFrames, decoded_decodeFrames, packets_behind]

theorem failed_behind (n : Nat) : (decodeFrames schema json (Dump.behind n fs)).failed =
    (decodeFrames schema json fs).failed := by
  have length : (Dump.behind n fs).length = fs.length := List.length_map _
  have moved : (decodeFrames schema json (Dump.behind n fs)).decoded + _ = _ := count_decodeFrames
  have there : (decodeFrames schema json fs).decoded + _ = _ := count_decodeFrames
  rw [decoded_behind, length] at moved
  omega

theorem output_behind (n : Nat) : (decodeFrames schema json (Dump.behind n fs)).output =
    String.join (fs.map fun f => printedOf schema json (n + f.1) f.2) := by
  rw [output_decodeFrames, Dump.behind, List.map_map]
  rfl

/-- In JSON each element that is decoded is one line, wherever it stands. -/
theorem lines_of_json : (decodeFrames schema true fs).output =
    String.join ((packets schema fs).map fun p => p.jsonText ++ "\n") := by
  rw [output_decodeFrames]
  induction fs with
  | nil => rfl
  | cons f fs ih =>
    rw [List.map_cons, String.join_cons, ih, printedOf]
    cases h : packet? schema f.2 with
    | none => simp [packets, h]
    | some p =>
      simp only [packets, List.filterMap_cons, h, List.map_cons, String.join_cons]
      rfl

theorem output_behind_json (n : Nat) : (decodeFrames schema true (Dump.behind n fs)).output =
    (decodeFrames schema true fs).output := by
  rw [lines_of_json, lines_of_json, packets_behind]

end

/-! ### Dumps -/

section

variable {settings : DecodeSettings} {schema : SchemaVersion} {json : Bool} {data : Bytes}

theorem decodeDump_raw {fs : List (Nat × Element)} (h : Dump.frames data = .ok fs) :
    decodeDump ⟨schema, false⟩ json data = .ok (decodeFrames schema json fs) := by
  show (Dump.frames data >>= fun fs => pure (decodeFrames schema json fs)) = _
  rw [h]
  rfl

theorem exists_decodeDump_error
    (h : ∀ bs fs, dumpBytes settings.hex data = .ok bs → Dump.frames bs ≠ .ok fs) :
    ∃ error, decodeDump settings json data = .error error := by
  rw [decodeDump]
  cases bytes : dumpBytes settings.hex data with
  | error e => exact ⟨e, rfl⟩
  | ok bs =>
    cases frames : Dump.frames bs with
    | error e =>
      refine ⟨e, ?_⟩
      rw [ok_bind, frames]
      rfl
    | ok fs => exact absurd frames (h bs fs bytes)

/-- What the program prints before it has read the dump, which is nothing. -/
theorem output_readDump (input : String) (w : Workspace) :
    ((readDump input : StateM Workspace (Option Bytes)).run w).2.output = w.output := by
  rw [readDump]
  split
  · rfl
  · show (w.read input).2.output = _
    rw [Workspace.read]
    split <;> rfl

theorem run_runDecode {input : String} {w : Workspace}
    (h : ((readDump input : StateM Workspace (Option Bytes)).run w).1 = some data) :
    (runDecode settings json input : StateM Workspace UInt32).run w =
      (finishDecode (decodeDump settings json data) : StateM Workspace UInt32).run
        ((readDump input : StateM Workspace (Option Bytes)).run w).2 := by
  have before : (readDump input : StateM Workspace (Option Bytes)).run w =
      (some data, ((readDump input : StateM Workspace (Option Bytes)).run w).2) := Prod.ext h rfl
  rw [runDecode, StateT.run_bind, before]
  rfl

theorem run_finishDecode_error (error : DumpError) (w : Workspace) :
    (finishDecode (.error error) : StateM Workspace UInt32).run w =
      (1, { w with reports := w.reports ++ [error.message] }) := rfl

/-- Everything is reported before anything is printed. -/
theorem run_finishDecode_ok (r : DecodeReport) (w : Workspace) :
    (finishDecode (.ok r) : StateM Workspace UInt32).run w =
      (if r.failed = 0 then 0 else 1,
        { w with
          reports := w.reports ++ r.log.map LogEntry.line
          output := w.output ++ utf8 r.output }) := by
  have reported (log : List LogEntry) (w : Workspace) :
      (log.forM (fun entry => Host.report entry.line) : StateM Workspace Unit).run w =
        ((), { w with reports := w.reports ++ log.map LogEntry.line }) := by
    induction log generalizing w with
    | nil =>
      rw [List.map_nil, List.append_nil]
      rfl
    | cons entry log ih =>
      show (log.forM (fun entry => Host.report entry.line) : StateM Workspace Unit).run
        { w with reports := w.reports ++ [entry.line] } = _
      rw [ih]
      simp only [List.map_cons, List.append_assoc, List.cons_append, List.nil_append]
  show (Host.writeOutput (utf8 r.output) >>= fun _ => pure (if r.failed = 0 then 0 else 1) :
    StateM Workspace UInt32).run
      ((r.log.forM (fun entry => Host.report entry.line) : StateM Workspace Unit).run w).2 = _
  rw [reported]
  rfl

end

end Inspect

end NamedData
