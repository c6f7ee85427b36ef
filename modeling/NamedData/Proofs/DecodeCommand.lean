/-
What the decode command prints, and the code that it ends with.

Before a dump is decoded, settings are read and logs made ready; after it, entries are logged.  None
of this writes to the standard output (`Silent`), which therefore holds what was printed of the
dump and nothing else.  The code tells whether all of the dump was decoded.

There is one exception.  Once the directory for logs is there, making ready for logs can still fail
in two ways, when what is to be logged cannot be read and when the log file cannot be opened, and
then the program ends before it has looked at the dump (`LogOutcome.stops`).  What is to be logged
is read from the environment, and from the settings only if nothing there makes sense.

* `run_loadConfig`, `silent_prepareLogs` — the steps before decoding print nothing;
* `prepareLogs_eq_noFilter_iff` — what is to be logged cannot be read when the filter in use has a
  directive that is cut inside a character, and only then;
* `run_runDecode_eq` — the code and the output of decoding a dump;
* `runInspect_decode` — the code and the output of the program.
-/
import NamedData.Proofs.DecodeRun

namespace NamedData.Inspect

/-! ### Steps that print nothing -/

/-- The step writes nothing to the standard output. -/
def Silent {α : Type} (x : StateM Workspace α) : Prop := ∀ w, (x.run w).2.output = w.output

namespace Silent

theorem pure {α : Type} (a : α) : Silent (Pure.pure a : StateM Workspace α) := fun _ => rfl

theorem bind {α β : Type} {x : StateM Workspace α} {f : α → StateM Workspace β} (hx : Silent x)
    (hf : ∀ a, Silent (f a)) : Silent (x >>= f) :=
  fun w => (hf (x.run w).1 (x.run w).2).trans (hx w)

theorem ite {α : Type} {c : Prop} [Decidable c] {x y : StateM Workspace α} (hx : Silent x)
    (hy : Silent y) : Silent (if c then x else y) := by
  split
  · exact hx
  · exact hy

end Silent

theorem silent_makeDirectory (path : String) : Silent (Host.makeDirectory path) := by
  intro w
  show (w.makeDirectory path).2.output = w.output
  rw [Workspace.makeDirectory]
  split
  · rfl
  · split
    · rfl
    · rfl
    · split
      · rfl
      · rfl
      · split <;> rfl

/-- A device that is fed nothing gives nothing. -/
theorem output_feed_nil {w w' : Workspace} {kind : Device} (h : w.feed [] kind = some w') :
    w'.output = w.output := by
  cases kind <;> cases h
  case standardOutput => exact List.append_nil _
  all_goals rfl

theorem silent_openLog (directory : String) : Silent (Host.openLog directory) := by
  intro w
  show (Workspace.attempt (fun w => w.openLog? directory) w).2.output = w.output
  rw [Workspace.attempt]
  split
  · rename_i w' opened
    rw [Workspace.openLog?, Workspace.write?] at opened
    split at opened
    · cases opened
    · rename_i place located
      split at opened
      · cases opened
      · -- there is a device in place of the file, so there are no bytes to be kept
        rename_i kind device
        have none : w.file? (Path.inDirectory directory (logFileName ++ "." ++ w.day)) = none := by
          simp [Workspace.file?, Workspace.entry?, located, device, Except.toOption]
        rw [none] at opened
        exact output_feed_nil opened
      · cases opened
        rfl
      · split at opened
        · cases opened
          rfl
        · cases opened
  · rfl

theorem silent_makeEach (paths : List String) :
    Silent (makeEach paths : StateM Workspace Bool) := by
  -- along the directories, each of which lies in the next
  induction paths with
  | nil => exact Silent.pure _
  | cons path above ih =>
    refine Silent.bind (silent_makeDirectory path) ?_
    intro outcome
    cases outcome with
    | present => exact Silent.pure _
    | refused => exact Silent.pure _
    | noParent =>
      refine Silent.bind ih ?_
      intro made
      exact Silent.ite (Silent.bind (silent_makeDirectory path) fun _ => Silent.pure _)
        (Silent.pure _)

theorem silent_makeDirectories (path : String) :
    Silent (makeDirectories path : StateM Workspace Bool) := by
  rw [makeDirectories]
  refine Silent.ite (Silent.pure _) ?_
  split
  · exact Silent.pure _
  · exact silent_makeEach _

theorem silent_openLogs (directory : Option String) :
    Silent (openLogs directory : StateM Workspace LogOutcome) := by
  cases directory with
  | none => exact Silent.pure _
  | some directory =>
    refine Silent.bind (silent_makeDirectories directory) ?_
    intro made
    exact Silent.ite (Silent.bind (silent_openLog directory) fun _ => Silent.pure _)
      (Silent.pure _)

theorem silent_prepareLogs (verbose : Bool) (settings : LoggingSection) :
    Silent (prepareLogs verbose settings : StateM Workspace LogOutcome) := by
  refine Silent.bind (fun _ => rfl) ?_
  intro filter
  cases filter with
  | error fault => exact Silent.pure _
  | ok _ => exact silent_openLogs _

/-! ### The settings -/

/-- Reading a file can use up the standard input and changes nothing else. -/
theorem run_readFile (path : String) (w : Workspace) : ∃ bytes? input,
    (Host.readFile path : StateM Workspace (Option Bytes)).run w =
      (bytes?, { w with input := input }) := by
  show ∃ bytes? input, w.read path = _
  rw [Workspace.read]
  split
  case h_3 => exact ⟨_, [], rfl⟩
  all_goals exact ⟨_, w.input, rfl⟩

theorem run_loadConfig (named : Option String) (w : Workspace) : ∃ input,
    ((loadConfig named : StateM Workspace (Option ConfigFile)).run w).2 =
      { w with input := input } := by
  obtain ⟨path?, found⟩ :
      ∃ path?, (configPath? named : StateM Workspace (Option String)).run w = (path?, w) := by
    cases named <;> exact ⟨_, rfl⟩
  rw [loadConfig, StateT.run_bind, found]
  cases path? with
  | none => exact ⟨w.input, rfl⟩
  | some path =>
    obtain ⟨bytes?, input, read⟩ := run_readFile path w
    refine ⟨input, ?_⟩
    show ((Host.readFile path >>= _ : StateM Workspace (Option ConfigFile)).run w).2 = _
    rw [StateT.run_bind, read]
    cases bytes? <;> rfl

/-! ### What is to be logged -/

namespace LogFilter

variable {takesValue : List Char → Bool}

/-- Directives that make no sense are no obstacle. -/
theorem readLossily_ne_refused (filter : String) :
    readLossily takesValue filter ≠ .error .refused := by
  rw [readLossily]
  induction directives filter with
  | nil => exact nofun
  | cons directive rest ih =>
    show (ignoreRefused (Directive.read takesValue directive) >>= fun _ => _) ≠ _
    cases Directive.read takesValue directive with
    | ok _ => exact ih
    | error fault =>
      cases fault with
      | refused => exact ih
      | broken => exact nofun

theorem readFirst_ne_refused (first? : Option String) (second : String) :
    readFirst takesValue first? second ≠ .error .refused := by
  cases first? with
  | none => exact readLossily_ne_refused second
  | some first =>
    rw [readFirst]
    split
    · exact readLossily_ne_refused second
    · assumption

end LogFilter

/-- What is to be logged, read from the environment of a workspace or from a level. -/
def Workspace.logFilter (w : Workspace) (level : String) : Except LogFilter.Fault Unit :=
  LogFilter.readFirst (fun value => ! w.refusedValues.contains (String.ofList value))
    (w.environment.lookup logVariable) level

theorem openLogs_ne_noFilter (directory : Option String) (w : Workspace) :
    ((openLogs directory : StateM Workspace LogOutcome).run w).1 ≠ .noFilter := by
  cases directory with
  | none => exact nofun
  | some directory =>
    obtain ⟨⟨made, w'⟩, making⟩ :
        ∃ after, (makeDirectories directory : StateM Workspace Bool).run w = after := ⟨_, rfl⟩
    rw [openLogs, StateT.run_bind, making]
    cases made with
    | false => exact nofun
    | true =>
      obtain ⟨⟨opened, w''⟩, opening⟩ :
          ∃ after, (Host.openLog directory : StateM Workspace Bool).run w' = after := ⟨_, rfl⟩
      show ((Host.openLog directory >>= _ : StateM Workspace LogOutcome).run w').1 ≠ _
      rw [StateT.run_bind, opening]
      cases opened <;> exact nofun

/-- Making ready for logs fails over the filter when it is broken, and for no other reason. -/
theorem prepareLogs_eq_noFilter_iff (verbose : Bool) (settings : LoggingSection)
    (w : Workspace) :
    ((prepareLogs verbose settings : StateM Workspace LogOutcome).run w).1 = .noFilter ↔
      w.logFilter (logLevel verbose settings) = .error .broken := by
  have read : (readFilter (logLevel verbose settings) : StateM Workspace _).run w =
      (w.logFilter (logLevel verbose settings), w) := rfl
  rw [prepareLogs, StateT.run_bind, read]
  cases filter : w.logFilter (logLevel verbose settings) with
  | ok _ => exact iff_of_false (openLogs_ne_noFilter settings.directory w) nofun
  | error fault =>
    cases fault with
    | refused => exact absurd filter (LogFilter.readFirst_ne_refused _ _)
    | broken => exact iff_of_true rfl rfl

/-! ### Decoding a dump -/

/-- The dump can be read and cut into elements, and every one of them is a packet. -/
def AllDecoded (schema : SchemaVersion) (hex : Bool) (data : Bytes) : Prop :=
  ∃ bs es, dumpBytes hex data = .ok bs ∧ Element.split bs = .ok es ∧
    ∀ e ∈ es, ∃ p, Packet.ofBlock schema (Block.ofElement e) = .ok p

/-- What is printed of a dump: each of its packets, in order; nothing when it cannot be read or cut
into elements. -/
def printedDump (schema : SchemaVersion) (hex json : Bool) (data : Bytes) : String :=
  match dumpBytes hex data >>= Dump.frames with
  | .ok fs => String.join (fs.map fun f => printedOf schema json f.1 f.2)
  | .error _ => ""

section

variable {schema : SchemaVersion} {settings : DecodeSettings} {hex json : Bool} {data : Bytes}

theorem failed_decodeFrames_eq_zero_iff {fs : List (Nat × Element)} :
    (decodeFrames schema json fs).failed = 0 ↔
      ∀ f ∈ fs, ∃ p, Packet.ofBlock schema (Block.ofElement f.2) = .ok p := by
  induction fs with
  | nil => simp [decodeFrames]
  | cons f fs ih =>
    obtain ⟨offset, e⟩ := f
    rw [List.forall_mem_cons, ← ih, decodeFrames, DecodeReport.failed_append, decodeElement]
    cases Packet.ofBlock schema (Block.ofElement e) with
    | error cause => simp
    | ok p => simp

theorem decodeDump_of_frames {fs : List (Nat × Element)}
    (h : dumpBytes settings.hex data >>= Dump.frames = .ok fs) :
    decodeDump settings json data = .ok (decodeFrames settings.schema json fs) := by
  obtain ⟨bs, bytes, frames⟩ := bind_eq_ok.mp h
  rw [decodeDump, bytes, ok_bind, frames]
  rfl

theorem decodeDump_of_frames_error {error : DumpError}
    (h : dumpBytes settings.hex data >>= Dump.frames = .error error) :
    decodeDump settings json data = .error error := by
  rw [decodeDump]
  rcases bind_eq_error.mp h with bytes | ⟨bs, bytes, frames⟩
  · rw [bytes]
    rfl
  · rw [bytes, ok_bind, frames]
    rfl

theorem allDecoded_iff : AllDecoded schema hex data ↔
    ∃ fs, dumpBytes hex data >>= Dump.frames = .ok fs ∧
      ∀ f ∈ fs, ∃ p, Packet.ofBlock schema (Block.ofElement f.2) = .ok p := by
  constructor
  · rintro ⟨bs, es, bytes, split, all⟩
    refine ⟨Dump.placed 0 es, ?_, ?_⟩
    · rw [bytes, ok_bind]
      exact Dump.frames_eq_ok_iff.mpr ⟨es, split, rfl⟩
    · intro f hf
      apply all
      rw [← Dump.map_snd_placed 0 es]
      exact List.mem_map_of_mem hf
  · rintro ⟨fs, frames, all⟩
    obtain ⟨bs, bytes, frames⟩ := bind_eq_ok.mp frames
    obtain ⟨es, split, rfl⟩ := Dump.frames_eq_ok_iff.mp frames
    refine ⟨bs, es, bytes, split, ?_⟩
    intro e he
    rw [← Dump.map_snd_placed 0 es] at he
    obtain ⟨f, hf, rfl⟩ := List.mem_map.mp he
    exact all f hf

/-- The code tells whether all of the dump was decoded, and what was decoded is printed either
way. -/
theorem run_runDecode_eq {input : String} {w : Workspace}
    (read : ((readDump input : StateM Workspace (Option Bytes)).run w).1 = some data) :
    let after := (runDecode settings json input : StateM Workspace UInt32).run w
    (after.1 = 0 ↔ AllDecoded settings.schema settings.hex data) ∧ (after.1 = 0 ∨ after.1 = 1) ∧
      after.2.output = w.output ++ utf8 (printedDump settings.schema settings.hex json data) := by
  intro after
  have before := output_readDump input w
  have ran : after = (finishDecode (decodeDump settings json data) : StateM Workspace UInt32).run
      ((readDump input : StateM Workspace (Option Bytes)).run w).2 := run_runDecode read
  rw [allDecoded_iff, printedDump]
  cases frames : dumpBytes settings.hex data >>= Dump.frames with
  | error error =>
    rw [decodeDump_of_frames_error frames, run_finishDecode_error] at ran
    rw [ran]
    refine ⟨by simp, .inr rfl, ?_⟩
    exact before.trans (List.append_nil _).symm
  | ok fs =>
    rw [decodeDump_of_frames frames, run_finishDecode_ok] at ran
    rw [ran]
    refine ⟨?_, ?_, ?_⟩
    · by_cases all : (decodeFrames settings.schema json fs).failed = 0
      · simpa [all] using failed_decodeFrames_eq_zero_iff.mp all
      · have some := mt failed_decodeFrames_eq_zero_iff.mpr all
        simpa [all] using some
    · by_cases all : (decodeFrames settings.schema json fs).failed = 0
      · exact .inl (if_pos all)
      · exact .inr (if_neg all)
    · show _ ++ utf8 (decodeFrames settings.schema json fs).output = _
      rw [before, output_decodeFrames]

end

/-! ### The program -/

/-- Making ready for logs ended the program. -/
def LogOutcome.stops : LogOutcome → Bool
  | .noFilter => true
  | .noFile => true
  | _ => false

section

variable (asked : Invocation) {config : ConfigFile} {outcome : LogOutcome} {w w₁ w₂ : Workspace}

theorem run_runInvocation
    (loaded : (loadConfig asked.config : StateM Workspace (Option ConfigFile)).run w =
      (some config, w₁))
    (logs : (prepareLogs asked.verbose config.logging : StateM Workspace LogOutcome).run w₁ =
      (.ready, w₂)) :
    (runInvocation asked : StateM Workspace UInt32).run w =
      (runCommand config asked.command : StateM Workspace UInt32).run w₂ := by
  rw [runInvocation, StateT.run_bind, loaded]
  show (prepareLogs asked.verbose config.logging >>= _ : StateM Workspace UInt32).run w₁ = _
  rw [StateT.run_bind, logs]
  rfl

theorem run_runInvocation_of_stops
    (loaded : (loadConfig asked.config : StateM Workspace (Option ConfigFile)).run w =
      (some config, w₁))
    (logs : (prepareLogs asked.verbose config.logging : StateM Workspace LogOutcome).run w₁ =
      (outcome, w₂)) (stopped : outcome.stops = true) :
    ∃ lines, (runInvocation asked : StateM Workspace UInt32).run w =
      (101, { w₂ with reports := lines }) := by
  rw [runInvocation, StateT.run_bind, loaded]
  show ∃ lines, (prepareLogs asked.verbose config.logging >>= _ : StateM Workspace UInt32).run w₁ =
    (101, { w₂ with reports := lines })
  rw [StateT.run_bind, logs]
  cases outcome with
  | ready => cases stopped
  | noDirectory => cases stopped
  | noFilter => exact ⟨_, rfl⟩
  | noFile => exact ⟨_, rfl⟩

end

/-- The decode command, with whatever options, when the settings can be loaded, the directory for
logs, if one is set, is there, and the dump can be read.  The schema is the one on the command line,
or else the one in the settings, or else the current one, and the dump is hexadecimal text if either
says so.  The program ends with 0 when all of the dump was decoded and with 1 otherwise, and it
prints what was decoded of it, whatever was logged.  Only if making ready for logs ended the program
the code is 101 and nothing is printed.  The filter ends it when it is broken: the one in the
environment, or the level if the environment has none that makes sense. -/
theorem runInspect_decode {w w₁ w₂ : Workspace} {args : List String} {input : String}
    {hex json verbose : Bool} {schema : Option SchemaVersion} {named : Option String}
    {config : ConfigFile} {outcome : LogOutcome} {data : Bytes}
    (asked : CommandLine.parse args =
      .ok ⟨.decode input hex json schema, named, verbose⟩)
    (loaded : (loadConfig named : StateM Workspace (Option ConfigFile)).run w = (some config, w₁))
    (logs : (prepareLogs verbose config.logging : StateM Workspace LogOutcome).run w₁ =
      (outcome, w₂))
    (made : outcome ≠ .noDirectory)
    (read : ((readDump input : StateM Workspace (Option Bytes)).run w₂).1 = some data) :
    let inEffect := schema.getD (config.decode.schema.getD .current)
    let text := hex || config.decode.hex = some true
    (outcome.stops = false →
      ((w.runInspect args).1 = 0 ↔ AllDecoded inEffect text data) ∧
        ((w.runInspect args).1 = 0 ∨ (w.runInspect args).1 = 1) ∧
        (w.runInspect args).2.output = w.output ++ utf8 (printedDump inEffect text json data)) ∧
      (outcome.stops = true →
        (w.runInspect args).1 = 101 ∧ (w.runInspect args).2.output = w.output) ∧
      (outcome = .noFilter ↔
        w.logFilter (logLevel verbose config.logging) = .error .broken) := by
  intro inEffect text
  let command : Invocation := ⟨.decode input hex json schema, named, verbose⟩
  have ran : w.runInspect args = (runInvocation command : StateM Workspace UInt32).run w := by
    rw [Workspace.runInspect, inspect, asked]
  have merged : DecodeSettings.merge schema hex config.decode = ⟨inEffect, text⟩ := by
    rw [DecodeSettings.merge]
    cases schema <;> cases h : config.decode.hex <;> simp [inEffect, text, h]
  obtain ⟨rest, before⟩ : ∃ rest, w₁ = { w with input := rest } := by
    simpa [loaded] using run_loadConfig named w
  have untouched : w₂.output = w.output := by
    have after := silent_prepareLogs verbose config.logging w₁
    rw [logs] at after
    rw [after, before]
  refine ⟨?_, ?_, ?_⟩
  · intro goingOn
    have ready : outcome = .ready := by
      cases outcome with
      | ready => rfl
      | noDirectory => exact absurd rfl made
      | noFilter => cases goingOn
      | noFile => cases goingOn
    subst ready
    have decoded := run_runInvocation command loaded logs
    rw [ran, decoded, runCommand, merged, ← untouched]
    exact run_runDecode_eq read
  · intro stopped
    obtain ⟨lines, ends⟩ := run_runInvocation_of_stops command loaded logs stopped
    rw [ran, ends]
    exact ⟨rfl, untouched⟩
  · have filter := prepareLogs_eq_noFilter_iff verbose config.logging w₁
    rw [logs, before] at filter
    exact filter

/-- Empty selectors and then an element of an unknown type, decoded to JSON from the standard input.
The level in the settings cannot be read, but the environment says what is to be logged. -/
theorem runInspect_decode_selectors :
    let settings := "[logging]\nlevel = \" é=info\"\n"
    let files := Workspace.ofFiles [(defaultConfigPath, utf8 settings)] [204, 0, 5, 0]
    let w := { files with environment := [(logVariable, "ndnx=debug,warn")] }
    ((w.runInspect ["decode", "--json"]).1 = 0 ↔ AllDecoded .current false [204, 0, 5, 0]) ∧
      (w.runInspect ["decode", "--json"]).2.output =
        utf8 (printedDump .current false true [204, 0, 5, 0]) := by
  intro settings files w
  let config : ConfigFile := ⟨{}, { level := some " é=info" }⟩
  have asked : CommandLine.parse ["decode", "--json"] =
      .ok ⟨.decode "-" false true none, none, false⟩ := eq_ok_of_toOption (by decide +kernel)
  have loaded : (loadConfig none : StateM Workspace (Option ConfigFile)).run w = (some config, w) :=
    Prod.ext (by decide +kernel) rfl
  have logs : (prepareLogs false config.logging : StateM Workspace LogOutcome).run w =
      (.ready, w) := rfl
  obtain ⟨code, -, output⟩ := (runInspect_decode asked loaded logs nofun rfl).1 rfl
  -- nothing had been printed before
  exact ⟨code, output.trans (List.nil_append _)⟩

/-- A packet that can be decoded, and settings that only say how much is logged, in a text that
cannot be read.  The code is neither 0 nor 1, and nothing is printed. -/
theorem runInspect_decode_unreadable_filter :
    let settings := "[logging]\nlevel = \" é=info\"\n"
    let w := Workspace.ofFiles [(defaultConfigPath, utf8 settings)] [202, 5, 7, 3, 8, 1, 97]
    ((loadConfig none : StateM Workspace (Option ConfigFile)).run w).1 =
        some ⟨{}, { level := some " é=info" }⟩ ∧
      AllDecoded .current false w.input ∧ printedDump .current false false w.input ≠ "" ∧
      (w.runInspect ["decode"]).1 = 101 ∧ (w.runInspect ["decode"]).2.output = [] := by
  intro settings w
  let e : Element := ⟨202, [202, 5], [7, 3, 8, 1, 97]⟩
  have wellFormed : e.WellFormed := ⟨5, rfl, rfl⟩
  have frames : Dump.frames w.input = .ok [(0, e)] := Dump.frames_wire wellFormed
  have decoded : ∃ p, Packet.ofBlock .current (Block.ofElement e) = .ok p := by
    have some : (Packet.ofBlock .current (Block.ofElement e)).toOption.isSome = true := by
      decide +kernel
    obtain ⟨p, hp⟩ := Option.isSome_iff_exists.mp some
    exact ⟨p, eq_ok_of_toOption hp⟩
  refine ⟨by decide +kernel, ?_, ?_, by decide +kernel, by decide +kernel⟩
  · exact allDecoded_iff.mpr ⟨[(0, e)], frames, by simpa using decoded⟩
  · obtain ⟨p, hp⟩ := decoded
    have printed : printedDump .current false false w.input = printed false 0 p := by
      rw [printedDump, dumpBytes]
      show (match Dump.frames w.input with | .ok fs => _ | .error _ => "") = _
      rw [frames]
      simp [printedOf, packet?, hp, Except.toOption]
    rw [printed]
    simp [Inspect.printed]

end NamedData.Inspect
