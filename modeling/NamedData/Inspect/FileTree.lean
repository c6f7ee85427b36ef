/-
File systems held in memory: what is at each location below the root.

A path is followed part by part. Every part is looked up in a directory, so a file in the middle
of a path is in the way, a directory that is missing there is missed, and a part that is too long
is refused. What the whole path leads to may be missing.

* `FileTree.locate` — the location to which parts of a path lead, or what keeps from following
  them;
* `FileTree.standard` — the directories and devices that are there from the start.
-/
import NamedData.Bytes
import NamedData.Inspect.Path

namespace NamedData.Inspect

/-- A location: the names from the root on. -/
abbrev Location := List String

/-- Files that are not kept. -/
inductive Device where
  /-- Is empty and takes everything. -/
  | null
  /-- Has no end and takes everything. -/
  | zero
  /-- Has no end and takes nothing. -/
  | full
  /-- Is the standard input. -/
  | standardInput
  /-- Is the standard output. -/
  | standardOutput
  /-- Is where reports go. -/
  | standardError
deriving DecidableEq, Repr

/-- What can be at a location. -/
inductive Entry where
  /-- A directory, and whether something new can be put into it. -/
  | directory (isOpen : Bool)
  /-- A file with its bytes. -/
  | file (contents : Bytes)
  /-- A device. -/
  | device (kind : Device)
deriving DecidableEq, Repr

/-- What keeps from following a path. -/
inductive Obstacle where
  /-- A directory on the way is missing. -/
  | missing
  /-- The path cannot lead anywhere. -/
  | refused
deriving DecidableEq, Repr

/-- What there is, by location. The root is always a directory. -/
structure FileTree where
  /-- What is at which location. -/
  entries : List (Location × Entry)
deriving Repr

namespace FileTree

/-- What is at a location. -/
def entry? (tree : FileTree) (place : Location) : Option Entry :=
  if place.isEmpty then some (.directory true) else tree.entries.lookup place

/-- The tree with something put at a location, in place of what was there. -/
def put (tree : FileTree) (place : Location) (entry : Entry) : FileTree where
  entries := (place, entry) :: tree.entries.filter fun e => e.1 != place

/-- The location to which a part of a path leads from another. -/
def follow (tree : FileTree) (place : Location) (part : String) : Except Obstacle Location :=
  match tree.entry? place with
  | none => .error .missing
  | some (.directory _) =>
    if Path.staysPut part then .ok place
    else if part = ".." then .ok place.dropLast
    else if Path.partLimit < part.utf8ByteSize then .error .refused
    else .ok (place ++ [part])
  | some _ => .error .refused

/-- The location to which parts of a path lead. -/
def locate (tree : FileTree) (start : Location) (parts : List String) :
    Except Obstacle Location :=
  parts.foldlM tree.follow start

/-- Whether something new can be put at a location, which is in a directory. -/
def takesAt (tree : FileTree) (place : Location) : Bool :=
  tree.entry? place.dropLast = some (.directory true)

/-- The tree with a file and the directories in which it lies. -/
def addFile (tree : FileTree) (place : Location) (contents : Bytes) : FileTree :=
  let above := (List.range place.length).map place.take
  (above.foldl (fun tree place => tree.put place (.directory true)) tree).put place
    (.file contents)

/-- The working directory. -/
def workingDirectory : Location := ["tmp", "work"]

/-- The directories and devices that are there from the start. -/
def standard : FileTree where
  entries :=
    [(workingDirectory, .directory true)] ++
    (["bin", "boot", "dev", "etc", "home", "lib", "media", "mnt", "opt", "root", "run", "sbin",
      "srv", "tmp", "usr", "var"].map fun name => ([name], .directory true)) ++
    ([["proc"], ["sys"], ["dev", "fd"]].map fun place => (place, .directory false)) ++
    ([("null", .null), ("zero", .zero), ("full", .full), ("stdin", .standardInput),
      ("stdout", .standardOutput), ("stderr", .standardError)].map fun (name, kind) =>
        (["dev", name], .device kind)) ++
    ([("0", .standardInput), ("1", .standardOutput), ("2", .standardError)].map
      fun (name, kind) => (["dev", "fd", name], .device kind))

end FileTree

end NamedData.Inspect
