/-
Workspaces: a host for the inspector that is held in memory.

A workspace has environment variables, a file system with a working directory in it, a standard
input and what was written so far.

* `Workspace.ofFiles` — a workspace with files in its working directory;
* `runInspect` — what the program leaves of a workspace, and its exit code.
-/
import NamedData.Inspect.FileTree
import NamedData.Inspect.Host

namespace NamedData.Inspect

/-- The environment, a file system, the standard streams and what differs from run to run. -/
structure Workspace where
  /-- The environment variables that are set to text. -/
  environment : List (String × String) := []
  /-- What is no regular expression, so that no field in a log filter can be asked for it. -/
  refusedValues : List String := []
  /-- What there is in the file system. -/
  tree : FileTree := .standard
  /-- What can be read from standard input. -/
  input : Bytes := []
  /-- What was written to standard output. -/
  output : Bytes := []
  /-- What was reported to the user. -/
  reports : List String := []
  /-- The number that is drawn for a nonce. -/
  draw : UInt32 := 0
  /-- The date, with year, month and day. -/
  day : String := "2000-01-01"
deriving Repr

namespace Workspace

/-- The location to which parts of a path lead. -/
def follow (w : Workspace) (path : Path) (parts : List String) : Except Obstacle Location :=
  w.tree.locate (if path.isAbsolute then [] else FileTree.workingDirectory) parts

/-- The location to which a path leads. -/
def locate (w : Workspace) (path : String) : Except Obstacle Location :=
  match Path.ofText? path with
  | none => .error .refused
  | some p => w.follow p p.parts

/-- What a path leads to. -/
def entry? (w : Workspace) (path : String) : Option Entry :=
  (w.locate path).toOption.bind w.tree.entry?

/-- The bytes of a file. -/
def file? (w : Workspace) (path : String) : Option Bytes :=
  match w.entry? path with
  | some (.file contents) => some contents
  | _ => none

/-- What reading a file to its end gives. -/
def read (w : Workspace) (path : String) : Option Bytes × Workspace :=
  match w.entry? path with
  | some (.file contents) => (some contents, w)
  | some (.device .null) => (some [], w)
  | some (.device .standardInput) => (some w.input, { w with input := [] })
  | _ => (none, w)

/-- The workspace after a device takes bytes, unless it refuses them. -/
def feed (w : Workspace) (bs : Bytes) : Device → Option Workspace
  | .full => none
  | .standardOutput => some { w with output := w.output ++ bs }
  | _ => some w

/-- The workspace with a file written, if its place is free or taken by a file. -/
def write? (w : Workspace) (path : String) (bs : Bytes) : Option Workspace :=
  match w.locate path with
  | .error _ => none
  | .ok place =>
    match w.tree.entry? place with
    | some (.directory _) => none
    | some (.device kind) => w.feed bs kind
    | some (.file _) => some { w with tree := w.tree.put place (.file bs) }
    | none =>
      if w.tree.takesAt place then some { w with tree := w.tree.put place (.file bs) } else none

/-- What comes of making a directory. Slashes at the end of its path make no difference. -/
def makeDirectory (w : Workspace) (path : String) : DirectoryOutcome × Workspace :=
  match Path.ofText? path with
  | none => (.refused, w)
  | some p =>
    match w.follow p (p.parts.reverse.dropWhile (· = "")).reverse with
    | .error .missing => (.noParent, w)
    | .error .refused => (.refused, w)
    | .ok place =>
      match w.tree.entry? place with
      | some (.directory _) => (.present, w)
      | some _ => (.refused, w)
      | none =>
        if w.tree.takesAt place then
          (.present, { w with tree := w.tree.put place (.directory true) })
        else (.refused, w)

/-- The workspace with the log file of the day in a directory, if it can be opened. -/
def openLog? (w : Workspace) (directory : String) : Option Workspace :=
  let path := Path.inDirectory directory (logFileName ++ "." ++ w.day)
  w.write? path ((w.file? path).getD [])

/-- Changes the workspace if that can be done, and says whether it could. -/
def attempt (change : Workspace → Option Workspace) : StateM Workspace Bool := fun w =>
  match change w with
  | some w => (true, w)
  | none => (false, w)

instance : Host (StateM Workspace) where
  environment name := fun w => (w.environment.lookup name, w)
  takesValue := fun w => (fun value => ! w.refusedValues.contains (String.ofList value), w)
  readFile path := fun w => w.read path
  isPresent path := fun w => ((w.entry? path).isSome, w)
  makeDirectory path := fun w => w.makeDirectory path
  openLog directory := attempt fun w => w.openLog? directory
  writeFile path bs := attempt fun w => w.write? path bs
  readInput := fun w => (w.input, { w with input := [] })
  writeOutput bs := fun w => ((), { w with output := w.output ++ bs })
  report line := fun w => ((), { w with reports := w.reports ++ [line] })
  drawNonce := fun w => (w.draw, w)

/-- The workspace with these files in its working directory, and this standard input. -/
def ofFiles (files : List (String × Bytes)) (input : Bytes) : Workspace where
  tree := files.foldl (fun tree (path, contents) =>
    let parts := ((Path.ofText? path).elim [] Path.parts).filter (! Path.staysPut ·)
    tree.addFile (FileTree.workingDirectory ++ parts) contents) .standard
  input := input

/-- What the program gives when it runs in a workspace: its exit code and the workspace then. -/
def runInspect (w : Workspace) (args : List String) : UInt32 × Workspace :=
  (inspect args : StateM Workspace UInt32).run w

end Workspace

end NamedData.Inspect
