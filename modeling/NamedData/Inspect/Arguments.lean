/-
Command line arguments, read in order.

An option has a long name and may have a letter. Its value comes after an equals sign, directly
after the letter, or as the next argument, which must not look like an option then. Letters can
share a dash. After two dashes alone no argument is an option. An argument that is no option is
the operand of a command or, before a command, its name.

Every argument is judged when its turn comes, so of several faults and requests for information
the first decides. Only a value that is an argument of its own and stands right
before the name of a command is judged after that command has been read.

* `Given.add` — the options that were given, each at most once and with a value of the right form;
* `scan` — what the arguments of one level of a command line give, and what is left of them.
-/

namespace NamedData.Inspect

/-- What an option is for. -/
inductive OptionKind where
  /-- It switches something on. -/
  | flag
  /-- It asks for information, which is shown instead of anything else. -/
  | information (text : String)
  /-- It comes with a value, which has to be of the right form. -/
  | value (accepts : String → Bool)

/-- An option that is understood. -/
structure OptionSpec where
  /-- Its name, after two dashes. -/
  name : String
  /-- Its letter, after one dash. -/
  letter : Option Char := none
  /-- What it is for. -/
  kind : OptionKind := .flag
  /-- What help says about it. -/
  about : String := ""

/-- Why a command line is not carried out. -/
inductive Refusal where
  /-- Information is asked for and is shown instead. -/
  | answered (text : String)
  /-- An option is not understood. -/
  | unknownOption (text : String)
  /-- A value is missing. -/
  | missingValue (name : String)
  /-- A value is given where none is expected. -/
  | unexpectedValue (name : String)
  /-- A value is not of the right form. -/
  | invalidValue (name value : String)
  /-- An option is given twice. -/
  | repeated (name : String)
  /-- A word is not expected here. -/
  | unexpectedWord (text : String)
  /-- A word is missing. -/
  | missingWord (what : String)
deriving DecidableEq, Repr

/-- The options that were given, with their values. -/
abbrev Given := List (String × Option String)

namespace Given

/-- Whether an option was given. -/
def has (g : Given) (name : String) : Bool := g.any fun o => o.1 == name

/-- The value of an option, if it was given. -/
def value? {α : Type} (g : Given) (name : String) (read : String → Option α) : Option α :=
  (g.lookup name).join.bind read

/-- The options with one more, which must not be among them. -/
def add (g : Given) (spec : OptionSpec) (value : Option String) : Except Refusal Given :=
  match spec.kind with
  | .information text => .error (.answered text)
  | kind =>
    if g.has spec.name then .error (.repeated spec.name)
    else
      match kind, value with
      | .value accepts, some text =>
        if accepts text then .ok ((spec.name, some text) :: g)
        else .error (.invalidValue spec.name text)
      | .value _, none => .error (.missingValue spec.name)
      | _, some _ => .error (.unexpectedValue spec.name)
      | _, none => .ok ((spec.name, none) :: g)

end Given

/-- The options up to an argument, and the option that still waits for its value, if the argument
ends in one. -/
structure Reading where
  given : Given
  waiting : Option OptionSpec := none

/-- Reads an argument that begins with two dashes, given without them. -/
def readLong (specs : List OptionSpec) (g : Given) (body : List Char) : Except Refusal Reading :=
  let name := String.ofList (body.takeWhile (· ≠ '='))
  let value := match body.dropWhile (· ≠ '=') with
    | _ :: value => some (String.ofList value)
    | [] => none
  match specs.find? (·.name = name) with
  | none => .error (.unknownOption ("--" ++ name))
  | some spec =>
    match spec.kind, value with
    | .value _, none => .ok ⟨g, some spec⟩
    | .value _, some _ => (g.add spec value).map fun g => ⟨g, none⟩
    | _, some _ => .error (.unexpectedValue name)
    | _, none => (g.add spec none).map fun g => ⟨g, none⟩

/-- Reads the letters after a single dash. -/
def readLetters (specs : List OptionSpec) (g : Given) : List Char → Except Refusal Reading
  | [] => .ok ⟨g, none⟩
  | c :: rest =>
    match specs.find? (·.letter = some c) with
    | none => .error (.unknownOption (String.ofList ['-', c]))
    | some spec =>
      match spec.kind, rest with
      | .value _, [] => .ok ⟨g, some spec⟩
      | .value _, '=' :: value =>
        (g.add spec (some (String.ofList value))).map fun g => ⟨g, none⟩
      | .value _, value => (g.add spec (some (String.ofList value))).map fun g => ⟨g, none⟩
      | _, _ => do readLetters specs (← g.add spec none) rest

/-- Whether an argument looks like an option. A single dash does not. -/
def looksLikeOption (arg : String) : Bool :=
  match arg.toList with
  | '-' :: _ :: _ => true
  | _ => false

/-- Reads an argument that looks like an option. -/
def readOption (specs : List OptionSpec) (g : Given) (arg : String) : Except Refusal Reading :=
  match arg.toList with
  | '-' :: '-' :: body => readLong specs g body
  | letters => readLetters specs g (letters.drop 1)

/-- What is understood at one level of a command line. -/
structure LevelSpec where
  /-- The options. -/
  options : List OptionSpec
  /-- The operand, as an option without dashes; without one, the name of a command is expected. -/
  operand : Option OptionSpec
  /-- What is shown when help is asked for. -/
  help : String

/-- What the arguments of a level give. -/
structure Level where
  /-- The options, and the operand if there is one. -/
  given : Given
  /-- An option with its value right before the name of a command, not judged yet. -/
  late : Option (OptionSpec × String) := none
  /-- What is left, from the name of a command on. -/
  rest : List String := []

/-- The options of a level and the operand, with one more operand. -/
def addOperand (operand : OptionSpec) (g : Given) (word : String) : Except Refusal Given :=
  if g.has operand.name then .error (.unexpectedWord word) else g.add operand (some word)

/-- Reads the arguments after two dashes alone. -/
def scanWords (spec : LevelSpec) (g : Given) (words : List String) : Except Refusal Level :=
  match spec.operand, words with
  | some operand, words => (words.foldlM (addOperand operand) g).map fun g => { given := g }
  | none, [] => .ok { given := g }
  | none, word :: _ => .error (.unexpectedWord word)

/-- Reads the arguments of a level, after the options given so far. -/
def scan (spec : LevelSpec) (g : Given) : List String → Except Refusal Level
  | [] => .ok { given := g }
  | arg :: rest =>
    if arg = "--" then scanWords spec g rest
    else if looksLikeOption arg then do
      let reading ← readOption spec.options g arg
      match reading.waiting, rest with
      | none, rest => scan spec reading.given rest
      | some waiting, [] => throw (.missingValue waiting.name)
      | some waiting, value :: rest =>
        if looksLikeOption value then throw (.missingValue waiting.name)
        else if spec.operand.isNone && rest.head?.any (! looksLikeOption ·) then
          return { given := reading.given, late := some (waiting, value), rest := rest }
        else scan spec (← reading.given.add waiting (some value)) rest
    else
      match spec.operand with
      | none => .ok { given := g, rest := arg :: rest }
      | some operand => do scan spec (← addOperand operand g arg) rest

/-- All options of a level, now that the command after it has been read. -/
def Level.finish (level : Level) : Except Refusal Given :=
  match level.late with
  | none => .ok level.given
  | some (spec, value) => level.given.add spec (some value)

end NamedData.Inspect
