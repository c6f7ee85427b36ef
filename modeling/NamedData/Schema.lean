/-
The two schemas that a decoder can accept.

The older schema has its own kinds of hints and replication selectors; a decoder that accepts it
accepts everything of the current one too.
-/

namespace NamedData

/-- Which schema a decoder accepts. -/
inductive SchemaVersion where
  | current
  | legacy
deriving DecidableEq, Repr

namespace SchemaVersion

/-- The schema's name. -/
def text : SchemaVersion → String
  | .current => "current"
  | .legacy => "legacy"

/-- The schema with a name. -/
def ofText? (s : String) : Option SchemaVersion :=
  if s = "current" then some .current else if s = "legacy" then some .legacy else none

/-- The text with the capital letters of ASCII made small. -/
def lowercase (s : String) : String := String.ofList (s.toList.map Char.toLower)

/-- The schema with a name in any mixture of capitals and small letters, or the message that there
is none. -/
def parse (s : String) : Except String SchemaVersion :=
  match ofText? (lowercase s) with
  | some v => .ok v
  | none =>
    .error ("unknown schema version '" ++ lowercase s ++ "' (expected current or legacy)")

end SchemaVersion

end NamedData
