/-
The written form of names.

A name is written as its components, each after a slash; the empty name is one slash. Reading
also takes the scheme `ndn:` and an authority after two slashes, ignores empty parts and blanks
around the text, and stops at a query or a fragment.

* `uri` — the written form of a name;
* `ofUri` — the name that a text stands for, or the first component that is not well formed.
-/
import NamedData.Name.Basic
import NamedData.Text.Blank

namespace NamedData.Name

/-- The characters of the name's URI. -/
def uriChars (n : Name) : List Char :=
  if n.components.isEmpty then ['/']
  else n.components.flatMap fun c => '/' :: c.uriChars

/-- The name's URI. -/
def uri (n : Name) : String := String.ofList n.uriChars

/-- The text without a scheme in front. -/
def withoutScheme (cs : List Char) : List Char :=
  (Text.afterStart? ['n', 'd', 'n', ':'] cs).getD cs

/-- The text without two slashes and the authority that they announce: what remains begins with
the next slash, and is nothing if there is none. -/
def withoutAuthority (cs : List Char) : List Char :=
  match Text.afterStart? ['/', '/'] cs with
  | some rest => rest.dropWhile (· ≠ '/')
  | none => cs

/-- The text up to a query or a fragment. -/
def withoutQuery (cs : List Char) : List Char :=
  cs.takeWhile fun c => c ≠ '?' ∧ c ≠ '#'

/-- The path of a URI: what is left without blanks, scheme, authority, query and fragment, which
are taken away in this order. -/
def path (cs : List Char) : List Char :=
  withoutQuery (withoutAuthority (withoutScheme (Text.trim cs)))

/-- The name that a URI stands for, given as characters. -/
def ofUriChars (cs : List Char) : Except UriError Name := do
  let parts := (Text.pieces '/' (path cs)).filter (! ·.isEmpty)
  let components ← parts.mapM Component.ofUri
  return ⟨components⟩

/-- The name that a URI stands for. -/
def ofUri (s : String) : Except UriError Name := ofUriChars s.toList

end NamedData.Name
