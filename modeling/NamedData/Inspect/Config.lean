/-
Settings of the inspector: a TOML file, and how the command line goes before it.

The file has two sections, both optional, and every entry in them is optional too; other entries
are passed over. A section may also be an array with its entries in order, or a date or time,
which has none of them.

* `ConfigFile.parse?` — the settings in a file;
* `DecodeSettings.merge`, `logLevel` — the settings in effect.
-/
import NamedData.Inspect.Decode
import NamedData.Toml.Reader

namespace NamedData.Inspect

/-- What a settings file says about decoding. -/
structure DecodeSection where
  /-- The schema that is accepted. -/
  schema : Option SchemaVersion := none
  /-- Whether dumps are hexadecimal text. -/
  hex : Option Bool := none
deriving DecidableEq, Repr

/-- What a settings file says about logging. -/
structure LoggingSection where
  /-- How much is logged. -/
  level : Option String := none
  /-- The directory where logs are kept. -/
  directory : Option String := none
deriving DecidableEq, Repr

/-- What a settings file says. -/
structure ConfigFile where
  decode : DecodeSection := {}
  logging : LoggingSection := {}
deriving DecidableEq, Repr

/-- The entries of a section with these names, absent ones marked. An array has to have them all,
and may go on; a date has no entries. -/
def entries? (names : List String) : Toml → Option (List (Option Toml))
  | .table _ members => some (names.map fun name => members.lookup name)
  | .date _ => some (names.map fun _ => none)
  | .array items =>
    if names.length ≤ items.length then some ((items.take names.length).map some) else none
  | .tables items =>
    if names.length ≤ items.length then some ((items.take names.length).map some) else none
  | _ => none

/-- An entry that may be absent. -/
def entry? {α : Type} (read : Toml → Option α) : Option Toml → Option (Option α)
  | none => some none
  | some t => (read t).map some

/-- The text that a value is. -/
def string? : Toml → Option String
  | .string s => some s
  | _ => none

/-- The truth value that a value is. -/
def boolean? : Toml → Option Bool
  | .boolean b => some b
  | _ => none

/-- Whether a value holds nothing. -/
def holdsNothing : Toml → Bool
  | .table _ members => members.isEmpty
  | .array items => items.isEmpty
  | .tables items => items.isEmpty
  | _ => false

/-- The schema that a value names, in small letters, as a text or as the only key of a table,
with an empty value. -/
def schema? : Toml → Option SchemaVersion
  | .string s => SchemaVersion.ofText? s
  | .table _ [(key, value)] => if holdsNothing value then SchemaVersion.ofText? key else none
  | _ => none

/-- What a section about decoding says. -/
def decodeSection? (t : Toml) : Option DecodeSection := do
  match ← entries? ["schema", "hex"] t with
  | [schema, hex] => return ⟨← entry? schema? schema, ← entry? boolean? hex⟩
  | _ => none

/-- What a section about logging says. -/
def loggingSection? (t : Toml) : Option LoggingSection := do
  match ← entries? ["level", "log_dir"] t with
  | [level, directory] => return ⟨← entry? string? level, ← entry? string? directory⟩
  | _ => none

/-- What a settings file says. -/
def ConfigFile.parse? (s : String) : Option ConfigFile := do
  match ← entries? ["decode", "logging"] (← Toml.parse? s) with
  | [decode, logging] =>
    return ⟨(← entry? decodeSection? decode).getD {}, (← entry? loggingSection? logging).getD {}⟩
  | _ => none

/-- The settings in effect: what the command line says about the schema goes before the file, and
hexadecimal text is expected when either asks for it. -/
def DecodeSettings.merge (schema : Option SchemaVersion) (hex : Bool) (file : DecodeSection) :
    DecodeSettings where
  schema := (schema.orElse fun _ => file.schema).getD .current
  hex := hex || file.hex.getD false

/-- How much is logged: verbose logging goes before the file. -/
def logLevel (verbose : Bool) (file : LoggingSection) : String :=
  if verbose then "debug" else file.level.getD "info"

end NamedData.Inspect
