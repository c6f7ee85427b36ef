/-
What a kind of record offers beside its encoding: how it is changed, and how it is shown.

* `Editable` — the changes that can be made to a cached record, as data;
* `Form` — its JSON form in both directions, its text, its name and which names it matches.
-/
import NamedData.Record.Lookup

namespace NamedData

/-- A kind of record with the changes that can be made to it. A change says what becomes of the
cached encoding: as a rule it is dropped. -/
class Editable (α : Type) (ε : outParam Type) where
  /-- The record after a change. -/
  apply : ε → Cached α → Cached α

/-- How a kind of record is shown. -/
class Form (α : Type) where
  /-- The members of its JSON object, in order. -/
  members : α → List (String × Json)
  /-- The record that a JSON value stands for. -/
  ofJson? : Json → Option α
  /-- Its text, if the kind has one. -/
  text? : α → Option String := fun _ => none
  /-- Its name, if the kind has one. -/
  name? : α → Option Name := fun _ => none
  /-- Whether it matches a name, if the kind has names. -/
  matches? : α → Name → Option Bool := fun _ _ => none

namespace Form

variable {α : Type} [Form α]

/-- The JSON form of a record. -/
def toJson (x : α) : Json := .object (members x)

end Form

/-- A parameter in the text of a packet: `?` before the first, `&` before the others. -/
def parameters (ps : List (String × String)) : String :=
  match ps with
  | [] => ""
  | (name, value) :: rest =>
    "?" ++ name ++ "=" ++ value ++ String.join (rest.map fun (n, v) => "&" ++ n ++ "=" ++ v)

end NamedData
