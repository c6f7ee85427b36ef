/-
Exclude filters: listed components and open ranges between them.

A range covers what lies strictly between the listed components on its two sides; where there is
none on a side, it is unbounded there.

* `excludes` — whether a component is filtered out;
* `layout` and `ofBlock` — the element of a filter, and the filter of an element. A filter without
  entries has no element of its own, and two ranges never follow one another in one.
-/
import NamedData.Name.Basic

namespace NamedData

/-- An entry of an exclude filter. -/
inductive ExcludeEntry where
  /-- This component. -/
  | component (c : Component)
  /-- Everything between the neighbouring components. -/
  | any
deriving DecidableEq, Repr

/-- The component that an entry lists, if it lists one. -/
def ExcludeEntry.component? : ExcludeEntry → Option Component
  | .component c => some c
  | .any => none

/-- An exclude filter. -/
structure Exclude where
  /-- Its entries, in order. -/
  entries : List ExcludeEntry := []
deriving DecidableEq, Repr, Inhabited

namespace Exclude

/-- Whether the filter has no entry. -/
def isEmpty (x : Exclude) : Bool := x.entries.isEmpty

/-- The filter with one more component at its end. -/
def excludeOne (x : Exclude) (c : Component) : Exclude := ⟨x.entries ++ [.component c]⟩

/-- The filter with an open range at its end; a range that is there already is enough. -/
def excludeAny (x : Exclude) : Exclude :=
  if x.entries.getLast? = some .any then x else ⟨x.entries ++ [.any]⟩

/-- Whether a component lies above a bound, which may be absent. -/
def above (c : Component) (bound : Option Component) : Bool :=
  bound.all fun b => (Ord.compare c b).isGT

/-- Whether a component lies below a bound, which may be absent. -/
def below (c : Component) (bound : Option Component) : Bool :=
  bound.all fun b => (Ord.compare c b).isLT

/-- Whether one of the entries filters the component out, where `lower` is the component listed
just before them. -/
def excludesFrom (c : Component) : Option Component → List ExcludeEntry → Bool
  | _, [] => false
  | _, .component d :: rest => d == c || excludesFrom c (some d) rest
  | lower, .any :: rest =>
    (above c lower && below c (rest.head?.bind ExcludeEntry.component?)) ||
      excludesFrom c none rest

/-- Whether the filter takes the component out. -/
def excludes (x : Exclude) (c : Component) : Bool := excludesFrom c none x.entries

/-- The entry as it stands in a URI: a star for an open range. -/
def entryChars : ExcludeEntry → List Char
  | .component c => c.uriChars
  | .any => ['*']

/-- The characters of the filter: its entries with commas between them. -/
def uriChars (x : Exclude) : List Char := [','].intercalate (x.entries.map entryChars)

/-- The filter as it stands in a URI. -/
def uri (x : Exclude) : String := String.ofList x.uriChars

/-- What the element of an entry is made of. -/
def entryLayout : ExcludeEntry → Layout
  | .component c => .byteArray TypeNumber.component c.value
  | .any => .empty TypeNumber.any

/-- What the element of the filter is made of. -/
def layout (x : Exclude) : Layout := .group TypeNumber.exclude (x.entries.map entryLayout)

/-- The entries that children stand for, when they come after `previous`. -/
def readEntries : Option ExcludeEntry → List Element → Except TlvError (List ExcludeEntry)
  | _, [] => .ok []
  | previous, e :: rest =>
    if e.type = TypeNumber.component then
      let entry := ExcludeEntry.component ⟨e.value⟩
      (readEntries (some entry) rest).map (entry :: ·)
    else if e.type = TypeNumber.any then
      if previous = some .any then .error (.invalidExclude .adjacentAny)
      else (readEntries (some .any) rest).map (.any :: ·)
    else .error (.invalidExclude (.unexpectedElement e.type))

/-- The filter that a block stands for. -/
def ofBlock (b : Block) : Except TlvError Exclude :=
  if b.type = TypeNumber.exclude then do
    let parsed ← b.parse
    if parsed.children.isEmpty then throw (.invalidExclude .empty)
    else
      let entries ← readEntries none parsed.children
      return ⟨entries⟩
  else .error (.invalidExclude (.wrongType b.type))

/-- The JSON form of an entry. -/
def entryJson : ExcludeEntry → Json
  | .component c => .object [("Component", .bytes c.value)]
  | .any => .string "Any"

/-- The JSON form of the filter. -/
def toJson (x : Exclude) : Json := .object [("entries", .array (x.entries.map entryJson))]

/-- The entry that a JSON value stands for. -/
def entryOfJson? (j : Json) : Option ExcludeEntry := do
  let (name, content) ← j.variant?
  if name = "Component" then return .component ⟨← Json.required Json.bytes? content⟩
  else if name = "Any" && Json.saysNothing content then return .any
  else none

/-- The filter that a JSON value stands for. -/
def ofJson? (j : Json) : Option Exclude := do
  match ← j.fields? ["entries"] with
  | [entries] => return ⟨← Json.required (Json.list? entryOfJson?) entries⟩
  | _ => none

end Exclude

end NamedData
