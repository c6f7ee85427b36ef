/-
Names: sequences of components.

* `isPrefixOf` — the relation by which packets match names;
* `layout` and `ofBlock` — the element of a name, and the name of an element.
-/
import NamedData.Name.Component
import NamedData.Layout
import NamedData.TypeNumber
import NamedData.Json.Fields

namespace NamedData

/-- A hierarchical name. -/
structure Name where
  /-- Its components, outermost first. -/
  components : List Component := []
deriving DecidableEq, Repr, Inhabited

namespace Name

/-- The number of components. -/
def length (n : Name) : Nat := n.components.length

/-- Whether the name has no component. -/
def isEmpty (n : Name) : Bool := n.components.isEmpty

/-- The component at a place counted from zero. -/
def get? (n : Name) (i : Nat) : Option Component := n.components[i]?

/-- The name with one more component at its end. -/
def append (n : Name) (c : Component) : Name := ⟨n.components ++ [c]⟩

/-- The name whose components are the given texts. -/
def ofStrings (ss : List String) : Name := ⟨ss.map Component.ofString⟩

/-- Whether every component of the name is the component of `other` at the same place. -/
def isPrefixOf (n other : Name) : Bool :=
  n.length ≤ other.length && (n.components.zip other.components).all fun (a, b) => a == b

/-- Names are ordered component by component, and a name comes before its extensions. -/
def compare (a b : Name) : Ordering := Ord.compare a.components b.components

instance : Ord Name := ⟨compare⟩

/-- What the element of the name is made of. -/
def layout (n : Name) : Layout :=
  .group TypeNumber.name (n.components.map fun c => .byteArray TypeNumber.component c.value)

/-- The component that a child of a name's element stands for. -/
def readComponent (e : Element) : Except TlvError Component :=
  if e.type = TypeNumber.component then .ok ⟨e.value⟩
  else .error (.invalidName (.unsupportedComponent e.type))

/-- The name that a block stands for. -/
def ofBlock (b : Block) : Except TlvError Name :=
  if b.type = TypeNumber.name then do
    let parsed ← b.parse
    let components ← parsed.children.mapM readComponent
    return ⟨components⟩
  else .error (.invalidName (.wrongType b.type))

/-- The JSON form of the name: its components as arrays of numbers. -/
def toJson (n : Name) : Json :=
  .object [("components", .array (n.components.map fun c => .bytes c.value))]

/-- The name that a JSON value stands for. -/
def ofJson? (j : Json) : Option Name := do
  match ← j.fields? ["components"] with
  | [components] =>
    return ⟨← Json.required (Json.list? fun item => item.bytes?.map Component.mk) components⟩
  | _ => none

end Name

end NamedData
