/-
Components of names: byte strings with an order and a written form.

Shorter components come first, and components of one length are ordered byte by byte. In a URI a
component is percent-encoded; one that consists of periods alone, the empty one included, gets
three more in front, since one or two periods have a meaning of their own there.

* `ofUri_uriChars` — a component reads back from its written form.
-/
import NamedData.Text.Percent
import NamedData.Text.Quoted

namespace NamedData

/-- Why a text is not the URI of a name; the offending component is kept as written. -/
inductive UriError where
  /-- The component stands for one or two periods. -/
  | illegalComponent (text : String)
  /-- A percent sign is not followed by two hexadecimal digits. -/
  | badEscape (text : String)
deriving DecidableEq, Repr

/-- The wording of a URI error; the component is quoted. -/
def UriError.message : UriError → String
  | .illegalComponent text => "Invalid NDN URI: illegal component " ++ Text.quoted text
  | .badEscape text => "Invalid NDN URI: bad percent escape in " ++ Text.quoted text

/-- One component of a name. -/
structure Component where
  /-- Its bytes. -/
  value : Bytes
deriving DecidableEq, Repr

namespace Component

/-- The component with the UTF-8 bytes of a text. -/
def ofString (s : String) : Component := ⟨utf8 s⟩

/-- The canonical order: by length, then byte by byte. -/
def compare (a b : Component) : Ordering :=
  (Ord.compare a.value.length b.value.length).then (Ord.compare a.value b.value)

instance : Ord Component := ⟨compare⟩

/-- Whether the bytes are periods and nothing else; so are no bytes at all. -/
def allPeriods (bs : Bytes) : Bool := bs.all (· == 46)

/-- The component as it stands in a URI. -/
def uriChars (c : Component) : List Char :=
  (if allPeriods c.value then ['.', '.', '.'] else []) ++ Percent.encode c.value

/-- The component as it stands in a URI, as a text. -/
def uri (c : Component) : String := String.ofList c.uriChars

/-- The component that a part of a URI stands for. -/
def ofUri (cs : List Char) : Except UriError Component :=
  match Percent.decode cs with
  | none => .error (.badEscape (String.ofList cs))
  | some bs =>
    if bs ≠ [] ∧ allPeriods bs then
      if bs.length < 3 then .error (.illegalComponent (String.ofList cs))
      else .ok ⟨bs.drop 3⟩
    else .ok ⟨bs⟩

theorem decode_uriChars (c : Component) :
    Percent.decode c.uriChars =
      some ((if allPeriods c.value then [46, 46, 46] else []) ++ c.value) := by
  unfold uriChars
  split
  · have three : ['.', '.', '.'] = Percent.encode [46, 46, 46] := by decide
    rw [three, ← Percent.decode_encode ([46, 46, 46] ++ c.value)]
    simp [Percent.encode]
  · simp [Percent.decode_encode]

theorem ofUri_uriChars (c : Component) : ofUri c.uriChars = .ok c := by
  rw [ofUri, decode_uriChars]
  by_cases h : allPeriods c.value
  · simp only [h, if_true]
    have p : allPeriods (46 :: 46 :: 46 :: c.value) = true := by
      simpa [allPeriods] using h
    simp [p]
  · simp [h]

end Component

end NamedData
