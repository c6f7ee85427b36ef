/-
Paths as they are written: parts between slashes, from the root of the file system or from the
working directory.

An empty part and a single period stay where they are, two periods lead to the directory above.

* `Path.ofText?` — the path that a text stands for, if it is not empty, not too long and without
  the zero character;
* `Path.above` — the paths above a path, as far as they can be seen from the text;
* `Path.inDirectory` — the text of a path to a file in a directory.
-/
import NamedData.Text.Blank

namespace NamedData.Inspect

/-- A path as it is written. -/
structure Path where
  /-- Whether it starts at the root. -/
  isAbsolute : Bool
  /-- The parts between slashes, in order. -/
  parts : List String
deriving DecidableEq, Repr

namespace Path

/-- How many bytes a path may have. -/
def lengthLimit : Nat := 4095

/-- How many bytes a part of a path may have. -/
def partLimit : Nat := 255

/-- The path that a text stands for. -/
def ofText? (s : String) : Option Path :=
  if s = "" || lengthLimit < s.utf8ByteSize || s.toList.contains '\x00' then none
  else
    match s.toList with
    | '/' :: rest => some ⟨true, (Text.pieces '/' rest).map String.ofList⟩
    | cs => some ⟨false, (Text.pieces '/' cs).map String.ofList⟩

/-- Whether a part stays where it is. -/
def staysPut (part : String) : Bool := part = "" || part = "."

/-- The beginnings of a list of parts that end in a name or in two periods, the longest first. All
lists are given from the last part on. -/
def upward : List String → List (List String)
  | [] => []
  | part :: above => if staysPut part then upward above else (part :: above) :: upward above

/-- The paths above a path, nearest first, without the directory in which they all start. -/
def above (path : Path) : List Path :=
  (upward path.parts.reverse).tail.map fun parts => { path with parts := parts.reverse }

/-- The text of a path. -/
def text (path : Path) : String :=
  (if path.isAbsolute then "/" else "") ++ "/".intercalate path.parts

/-- The text of a path to a file in the directory with the text `directory`. -/
def inDirectory (directory file : String) : String :=
  if directory = "" || directory.toList.getLast? = some '/' then directory ++ file
  else directory ++ "/" ++ file

end Path

end NamedData.Inspect
