/-
The command line of the inspector.

    [OPTIONS] decode [OPTIONS] [INPUT]
    [OPTIONS] encode [OPTIONS] KIND [OPTIONS] NAME

An option that holds for a whole command can also be given after the words that follow it; where
it is given at several levels, the innermost counts.

* `parse` — what a command line asks for, or why it is refused.
-/
import NamedData.Inspect.Arguments
import NamedData.Inspect.Encode
import NamedData.Inspect.Help
import NamedData.Name.Uri
import NamedData.Schema

namespace NamedData.Inspect

/-- What the inspector is to do. -/
inductive Command where
  /-- Decode a dump: its path, or a dash for standard input. -/
  | decode (input : String) (hex json : Bool) (schema : Option SchemaVersion)
  /-- Build a packet and write it, to a file if its path is given. -/
  | encode (request : EncodeRequest) (output : Option String) (hex : Bool)
deriving DecidableEq, Repr

/-- What a command line asks for. -/
structure Invocation where
  /-- What is to be done. -/
  command : Command
  /-- The settings file that is named. -/
  config : Option String
  /-- Whether logging is verbose. -/
  verbose : Bool
deriving DecidableEq, Repr

namespace CommandLine

/-! ### Values -/

/-- A path, which is not empty. -/
def path? (s : String) : Option String := if s = "" then none else some s

/-- A whole number with a sign or without. -/
def integer? (s : String) : Option Int :=
  match s.toList with
  | '-' :: digits => (Text.ofDecimal? digits).map fun n => -(n : Int)
  | '+' :: digits => (Text.ofDecimal? digits).map fun n => (n : Int)
  | digits => (Text.ofDecimal? digits).map fun n => (n : Int)

/-- A 64-bit word, with a plus sign or without a sign. -/
def word? (s : String) : Option UInt64 := do
  let n ← integer? s
  if s.toList.head? = some '-' then none
  else if n < 2 ^ 64 then return UInt64.ofNat n.toNat
  else none

/-- A 32-bit word, with a sign or without one. -/
def nonce? (s : String) : Option UInt32 := do
  let n ← integer? s
  if 0 ≤ n ∧ n < 2 ^ 32 then return UInt32.ofNat n.toNat else none

/-- A name, given as a URI. -/
def name? (s : String) : Option Name := (Name.ofUri s).toOption

/-- The version of the schema. -/
def schema? (s : String) : Option SchemaVersion := (SchemaVersion.parse s).toOption

/-! ### Options -/

/-- An option with a value of a form that can be read. -/
def valued {α : Type} (name : String) (letter : Option Char) (read : String → Option α)
    (about : String) : OptionSpec :=
  ⟨name, letter, .value fun text => (read text).isSome, about⟩

/-- An option that switches something on. -/
def flag (name : String) (letter : Option Char) (about : String) : OptionSpec :=
  ⟨name, letter, .flag, about⟩

/-- The settings file. -/
def configOption : OptionSpec := valued "config" (some 'f') path? "Configuration file path"

/-- Verbose logging. -/
def verboseOption : OptionSpec := flag "verbose" (some 'v') "Enable verbose logging"

/-- Where a packet is written. -/
def outputOption : OptionSpec :=
  valued "output" (some 'o') path? "Output file (default: stdout)"

/-- Whether a packet is written as hexadecimal text. -/
def hexOption : OptionSpec := flag "hex" none "Write a hex line instead of raw bytes"

/-- The request for help. -/
def helpOption (text : String) : OptionSpec := ⟨"help", some 'h', .information text, "Print help"⟩

/-- The request for the version. -/
def versionOption : OptionSpec :=
  ⟨"version", some 'V', .information (HelpPage.program ++ " 0.1.0\n"), "Print version"⟩

/-! ### Levels -/

/-- The name that help gives to a value: that of its option in capital letters. -/
def valueName (name : String) : String :=
  String.ofList (name.toList.map fun c => if c = '-' then '_' else c.toUpper)

/-- An option as help shows it. -/
def label (spec : OptionSpec) : String :=
  let letter := match spec.letter with
    | some c => String.ofList ['-', c, ',', ' ']
    | none => "    "
  let value := match spec.kind with
    | .value _ => " <" ++ valueName spec.name ++ ">"
    | _ => ""
  letter ++ "--" ++ spec.name ++ value

/-- A level with its help page: the words that lead to it, what it is about, the commands that may
follow, the operand with the form in which help shows it, and the options in the order of the
page. -/
def level (path : List String) (about : String) (commands : List (String × String))
    (operand : Option (OptionSpec × String)) (options : List OptionSpec)
    (closing : List OptionSpec) : LevelSpec :=
  let shown := options ++ [helpOption ""] ++ closing
  let page : HelpPage :=
    { path := path
      about := about
      commands := commands
      operand := operand.map fun (spec, form) => (form, spec.about)
      options := shown.map fun spec => (label spec, spec.about) }
  ⟨options ++ [helpOption page.text] ++ closing, operand.map Prod.fst, page.text⟩

/-- The command that shows help, as help lists it. -/
def helpCommand : String × String :=
  ("help", "Print this message or the help of the given subcommand(s)")

/-- What is shown when help on the command for help is asked for, below other commands. -/
def helpOnHelp (path : List String) : String :=
  let page : HelpPage :=
    { path := path ++ [helpCommand.1]
      about := helpCommand.2
      operand := some ("[COMMAND]...", "Print help for the subcommand(s)") }
  page.text

/-- What decoding is about. -/
def decodeAbout : String := "Decode every TLV element in a wire dump"

/-- What encoding is about. -/
def encodeAbout : String := "Build a packet and write its wire encoding"

/-- What is understood before the command. -/
def mainLevel : LevelSpec :=
  level [] "Decode and build NDN replication-extension TLV packets from the command line"
    [("decode", decodeAbout), ("encode", encodeAbout), helpCommand] none
    [configOption, verboseOption] [versionOption]

/-- What is understood after `decode`. -/
def decodeLevel : LevelSpec :=
  level ["decode"] decodeAbout []
    (some (valued "INPUT" none path? "Input file, or '-' for stdin [default: -]", "[INPUT]"))
    [flag "hex" none "Input is a hex dump rather than raw bytes",
      flag "json" none "Print one JSON object per element", configOption,
      valued "schema" none schema? "Schema version (current or legacy)", verboseOption] []

/-- A packet that can be asked for: what it is about, its options, and the request that they
make. -/
structure PacketCommand where
  /-- What it is about. -/
  about : String
  /-- The options. -/
  options : List OptionSpec
  /-- The request for a packet with a name. -/
  request : Given → Name → EncodeRequest

/-- The packets that can be asked for. -/
def packetCommands : List (String × PacketCommand) :=
  [("announcement",
      ⟨"Announcement with optional timeout and nonce",
        [valued "timeout-ms" none word? "Announcement timeout in milliseconds",
          valued "nonce" none nonce? "Fixed nonce instead of a random one", configOption,
          verboseOption, outputOption, hexOption],
        fun g name => .announcement name (g.value? "timeout-ms" word?) (g.value? "nonce" nonce?)⟩),
    ("hint",
      ⟨"Hint with optional scope and replication selectors",
        [valued "scope" none word? "", valued "node-id" none word? "", configOption,
          flag "interested" none "", valued "availability" none word? "", verboseOption,
          outputOption, hexOption],
        fun g name => .hint name (g.value? "scope" word?) (g.value? "node-id" word?)
          (g.has "interested") (g.value? "availability" word?)⟩),
    ("vicinity",
      ⟨"Vicinity with optional scope",
        [valued "scope" none word? "", configOption, verboseOption, outputOption, hexOption],
        fun g name => .vicinity name (g.value? "scope" word?)⟩),
    ("vicinity-data",
      ⟨"VicinityData with optional node id",
        [valued "node-id" none word? "", configOption, verboseOption, outputOption, hexOption],
        fun g name => .vicinityData name (g.value? "node-id" word?)⟩)]

/-- What is understood after a kind of packet. -/
def PacketCommand.level (kind : String) (command : PacketCommand) : LevelSpec :=
  CommandLine.level ["encode", kind] command.about []
    (some (valued "NAME" none name? "", "<NAME>")) command.options []

/-- What is understood after `encode`. -/
def encodeLevel : LevelSpec :=
  level ["encode"] encodeAbout
    (packetCommands.map (fun (kind, command) => (kind, command.about)) ++ [helpCommand]) none
    [configOption, verboseOption, outputOption, hexOption] []

/-! ### Commands -/

/-- The help pages below encoding, by the words after the command for help. -/
def encodeHelp : List (List String × String) :=
  [([], encodeLevel.help), ([helpCommand.1], helpOnHelp ["encode"])] ++
    packetCommands.map fun (kind, command) => ([kind], (command.level kind).help)

/-- The help pages, by the words after the command for help. -/
def mainHelp : List (List String × String) :=
  [([], mainLevel.help), ([helpCommand.1], helpOnHelp []), (["decode"], decodeLevel.help)] ++
    encodeHelp.map fun (path, text) => ("encode" :: path, text)

/-- What comes of asking for help by a command, with these words after it. -/
def helpOn (pages : List (List String × String)) (words : List String) : Refusal :=
  match pages.lookup words with
  | some text => .answered text
  | none => .unexpectedWord (words.headD helpCommand.1)

/-- What the arguments after `decode` ask for, and the options among them. -/
def parseDecode (args : List String) : Except Refusal (Command × Given) := do
  let g ← (← scan decodeLevel [] args).finish
  let input := (g.value? "INPUT" path?).getD "-"
  return (.decode input (g.has "hex") (g.has "json") (g.value? "schema" schema?), g)

/-- The packet that the arguments after its kind ask for, and the options among them. -/
def parsePacket (kind : String) (command : PacketCommand) (args : List String) :
    Except Refusal (EncodeRequest × Given) := do
  let g ← (← scan (command.level kind) [] args).finish
  match g.value? "NAME" name? with
  | none => throw (.missingWord "NAME")
  | some name => return (command.request g name, g)

/-- What the arguments after `encode` ask for, and the options among them, innermost first. -/
def parseEncode (args : List String) : Except Refusal (Command × Given) := do
  let level ← scan encodeLevel [] args
  match level.rest with
  | [] => throw (.missingWord "KIND")
  | "help" :: path => throw (helpOn encodeHelp path)
  | kind :: args =>
    match packetCommands.lookup kind with
    | none => throw (.unexpectedWord kind)
    | some command =>
      let (request, inner) ← parsePacket kind command args
      let g : Given := inner ++ (← level.finish)
      return (.encode request (g.value? "output" path?) (g.has "hex"), g)

/-- What the arguments from the name of a command on ask for, and the options among them. -/
def parseCommand : List String → Except Refusal (Command × Given)
  | [] => .error (.missingWord "COMMAND")
  | "decode" :: args => parseDecode args
  | "encode" :: args => parseEncode args
  | "help" :: path => .error (helpOn mainHelp path)
  | word :: _ => .error (.unexpectedWord word)

/-- What a command line asks for. -/
def parse (args : List String) : Except Refusal Invocation := do
  let level ← scan mainLevel [] args
  let (command, inner) ← parseCommand level.rest
  let g : Given := inner ++ (← level.finish)
  return ⟨command, g.value? "config" path?, g.has "verbose"⟩

end CommandLine

end NamedData.Inspect
