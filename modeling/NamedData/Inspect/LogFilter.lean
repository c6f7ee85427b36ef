/-
Log filters: which records are logged.

A filter is a list of directives between commas. A directive is a level, or a name, with a span
between brackets if need be, an equals sign and a level; the span may have a field between braces,
which may ask for a value.

The marks of a directive are looked for in its text without the blanks around it, and their places
are counted in bytes from there, but the parts between them are cut out of the whole text. Blanks
in front therefore shift every cut, and a cut can fall into a character. Reading such a directive
breaks off, and the program with it.

A filter comes from an environment variable, where every directive has to make sense, or else from a
level, where those that make none are passed over.

* `Directive.read` — reads one directive;
* `read`, `readLossily` — read a filter, with and without regard for directives that make no sense;
* `readFirst` — reads the filter of the variable, or the other if that one makes no sense.
-/
import NamedData.Text.Alphanumeric
import NamedData.Text.Blank
import NamedData.Text.Decimal

namespace NamedData.Inspect.LogFilter

open Text

/-- What keeps a directive or a filter from being read. -/
inductive Fault where
  /-- It makes no sense. -/
  | refused
  /-- It is cut inside a character, where reading breaks off. -/
  | broken
deriving DecidableEq, Repr

/-! ### Parts of a text -/

/-- A text cut in two at a place, in bytes, if the place lies between two characters or at an
end. -/
def cut? : List Char → Nat → Option (List Char × List Char)
  | cs, 0 => some ([], cs)
  | [], _ + 1 => none
  | c :: rest, place =>
    if c.utf8Size ≤ place then
      (cut? rest (place - c.utf8Size)).map fun (front, behind) => (c :: front, behind)
    else none

/-- The text from a place on. -/
def partFrom (text : List Char) (start : Nat) : Except Fault (List Char) :=
  match cut? text start with
  | some (_, behind) => .ok behind
  | none => .error .broken

/-- The text between two places. -/
def part (text : List Char) (start stop : Nat) : Except Fault (List Char) := do
  let behind ← partFrom text start
  match cut? behind (stop - start) with
  | some (front, _) => return front
  | none => throw .broken

/-! ### Levels and fields -/

/-- The names of levels. -/
def levelNames : List String := ["off", "error", "warn", "info", "debug", "trace"]

/-- Whether a text is a level: a number up to five, with a plus sign if need be, or a name in any
mixture of capitals and small letters. -/
def isLevel (text : List Char) : Bool :=
  let digits := (afterStart? ['+'] text).getD text
  (ofDecimal? digits).any (· ≤ 5) || levelNames.contains (String.ofList (text.map Char.toLower))

/-- Whether a field makes sense: one that asks for a value does if the value can be asked for. -/
def takesField (takesValue : List Char → Bool) (field : List Char) : Bool :=
  match pieces '=' field with
  | _ :: value :: _ => takesValue value
  | _ => !field.isEmpty

/-! ### Directives -/

namespace Directive

/-- How far a directive has been read. -/
inductive Progress where
  /-- Nothing was read. -/
  | start
  /-- A level or a name is being read. -/
  | name
  /-- A span is being read, from this place on. -/
  | span (start : Nat)
  /-- A field is being read, from this place on. -/
  | field (start : Nat)
  /-- The field was read. -/
  | fields
  /-- The span was read. -/
  | target
  /-- A level is being read, from this place on. -/
  | level (start : Nat)
deriving DecidableEq, Repr

/-- Whether a directive without a span may begin with a character. -/
def mayBegin (c : Char) : Bool := c = '-' || c = ':' || c = '_' || isAlphanumeric c

section

variable (takesValue : List Char → Bool) (directive : List Char)

/-- Reads a character at a place. The parts that it ends are cut out of the directive. -/
def step (place : Nat) (c : Char) : Progress → Except Fault Progress
  | .start =>
    if c = '[' then .ok (.span (place + 1))
    else if mayBegin c then .ok .name
    else .error .refused
  | .name =>
    if c = '=' then (part directive 0 place).map fun _ => .level (place + 1)
    else if c = '[' then (part directive 0 place).map fun _ => .span (place + 1)
    else .ok .name
  | .span start =>
    if c = ']' then (part directive start place).map fun _ => .target
    else if c = '\x7b' then (part directive start place).map fun _ => .field (place + 1)
    else .ok (.span start)
  | .field start =>
    if c = '\x7d' then do
      let field ← part directive start place
      if takesField takesValue field then return .fields else throw .refused
    else .ok (.field start)
  | .fields => if c = ']' then .ok .target else .error .refused
  | .target => if c = '=' then .ok (.level (place + 1)) else .error .refused
  | .level start => .ok (.level start)

/-- Ends a directive. A name may be all that there is of it, a level may be left out, and a span
need not have one. -/
def finish : Progress → Except Fault Unit
  | .name => .ok ()
  | .target => .ok ()
  | .level start => do
    let level ← partFrom directive start
    if level.isEmpty || isLevel level then return () else throw .refused
  | _ => .error .refused

/-- Reads the characters from a place on. -/
def readFrom (place : Nat) (progress : Progress) : List Char → Except Fault Unit
  | [] => finish directive progress
  | c :: rest => do
    let progress ← step takesValue directive place c progress
    readFrom (place + c.utf8Size) progress rest

/-- Reads a directive. -/
def read : Except Fault Unit := readFrom takesValue directive 0 .start (trim directive)

end

end Directive

/-! ### Filters -/

section

variable (takesValue : List Char → Bool) (filter : String)

/-- The directives of a filter. Those without any text are none. -/
def directives : List (List Char) := (pieces ',' filter.toList).filter (! ·.isEmpty)

/-- Reads a filter in which every directive has to make sense. -/
def read : Except Fault Unit := (directives filter).forM (Directive.read takesValue)

/-- Passes over what makes no sense. -/
def ignoreRefused : Except Fault Unit → Except Fault Unit
  | .error .refused => .ok ()
  | outcome => outcome

/-- Reads a filter and passes over the directives that make no sense. -/
def readLossily : Except Fault Unit :=
  (directives filter).forM fun directive => ignoreRefused (Directive.read takesValue directive)

/-- Reads the first of two filters, if there is one and it makes sense, or else the second. -/
def readFirst (first? : Option String) (second : String) : Except Fault Unit :=
  match first? with
  | none => readLossily takesValue second
  | some first =>
    match read takesValue first with
    | .error .refused => readLossily takesValue second
    | outcome => outcome

end

end NamedData.Inspect.LogFilter
