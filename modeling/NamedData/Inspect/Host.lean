/-
What the inspector needs from its surroundings, and what it does with it.

A `Host` has environment variables, reads and writes files and the standard streams and draws
random numbers. `inspect` is the whole program on any host: it reads the command line, then the
settings, makes ready for logs and carries out the command. It gives an exit code: 0 when all went
well, 1 when something failed, 2 when the command line is refused, 101 when what is to be logged
cannot be read or the log file cannot be opened.

* `loadConfig` — the settings file that is named, or the one in the working directory if any;
* `makeDirectories` — a directory made together with those it lies in;
* `prepareLogs` — what is to be logged, by the environment or by the settings, and the log file;
* `runDecode`, `runEncode` — the two commands.
-/
import NamedData.Inspect.CommandLine
import NamedData.Inspect.Config
import NamedData.Inspect.LogFilter
import NamedData.Inspect.Path

namespace NamedData.Inspect

/-- What comes of making a directory. -/
inductive DirectoryOutcome where
  /-- There is a directory at the path, a new one or one from before. -/
  | present
  /-- A directory in which it would lie is missing. -/
  | noParent
  /-- It cannot be made. -/
  | refused
deriving DecidableEq, Repr

/-- The surroundings of the program. -/
class Host (m : Type → Type) where
  /-- The value of an environment variable, if it is set and is text. -/
  environment : String → m (Option String)
  /-- The values that a field in a log filter can be asked for: Booleans, numbers and regular
  expressions. -/
  takesValue : m (List Char → Bool)
  /-- The bytes of a file, if it can be read. -/
  readFile : String → m (Option Bytes)
  /-- Whether there is a file or directory at a path. -/
  isPresent : String → m Bool
  /-- Makes a directory, unless there is one at the path. -/
  makeDirectory : String → m DirectoryOutcome
  /-- Opens the log file of the day in a directory; says whether that worked. -/
  openLog : String → m Bool
  /-- Writes a file, in place of any other at the path; says whether that worked. -/
  writeFile : String → Bytes → m Bool
  /-- All bytes of standard input. -/
  readInput : m Bytes
  /-- Writes to standard output. -/
  writeOutput : Bytes → m Unit
  /-- Writes a line for the user beside the output. -/
  report : String → m Unit
  /-- A random number for a nonce. -/
  drawNonce : m UInt32

/-- The settings file that is used when none is named. -/
def defaultConfigPath : String := "ndnx-inspect.toml"

/-- The environment variable that says what is to be logged. -/
def logVariable : String := "RUST_LOG"

/-- The name that log files begin with. -/
def logFileName : String := "ndnx-inspect.log"

/-- The text that bytes are, if they are UTF-8. -/
def decodeText? (bs : Bytes) : Option String := String.fromUTF8? bs.toByteArray

/-- The settings in the bytes of a file. -/
def configOfBytes? (bs : Bytes) : Option ConfigFile := do
  ConfigFile.parse? (← decodeText? bs)

section

variable {m : Type → Type} [Monad m] [Host m]

/-- The path of the settings file, if there is one: the one that is named, or the usual one in the
working directory. -/
def configPath? (named : Option String) : m (Option String) := do
  match named with
  | some path => return some path
  | none => return if ← Host.isPresent defaultConfigPath then some defaultConfigPath else none

/-- The settings in the settings file; nothing set when there is no file, and none at all when
there is one that cannot be read. -/
def loadConfig (named : Option String) : m (Option ConfigFile) := do
  match ← configPath? named with
  | none => return some {}
  | some path =>
    match ← Host.readFile path with
    | none => return none
    | some bs => return configOfBytes? bs

/-- Makes the first of several directories, each of which lies in the next; those that are missing
are made before it. Says whether it is there afterwards. -/
def makeEach : List String → m Bool
  | [] => return false
  | path :: above => do
    match ← Host.makeDirectory path with
    | .present => return true
    | .refused => return false
    | .noParent =>
      if ← makeEach above then return (← Host.makeDirectory path) = .present else return false

/-- Makes a directory and those it lies in; says whether it is there afterwards. The empty path
asks for nothing. -/
def makeDirectories (path : String) : m Bool :=
  if path = "" then return true
  else
    match Path.ofText? path with
    | none => return false
    | some p => makeEach (path :: p.above.map Path.text)

/-- What comes of making ready for logs. -/
inductive LogOutcome where
  /-- All is well. -/
  | ready
  /-- What is to be logged cannot be read. -/
  | noFilter
  /-- There is no directory for logs. -/
  | noDirectory
  /-- There is no log file. -/
  | noFile
deriving DecidableEq, Repr

/-- Makes the directory for logs and opens the log file in it, if a directory is set. -/
def openLogs : Option String → m LogOutcome
  | none => return .ready
  | some directory => do
    if ← makeDirectories directory then
      return if ← Host.openLog directory then .ready else .noFile
    else return .noDirectory

/-- Reads what is to be logged, which the environment can say in place of a level. -/
def readFilter (level : String) : m (Except LogFilter.Fault Unit) := do
  let takesValue ← Host.takesValue
  let filter? ← Host.environment logVariable
  return LogFilter.readFirst takesValue filter? level

/-- Reads what is to be logged and opens the log file. -/
def prepareLogs (verbose : Bool) (settings : LoggingSection) : m LogOutcome := do
  match ← readFilter (logLevel verbose settings) with
  | .error _ => return .noFilter
  | .ok () => openLogs settings.directory

/-- The bytes of the dump to be decoded. -/
def readDump (input : String) : m (Option Bytes) := do
  if input = "-" then return some (← Host.readInput) else Host.readFile input

/-- Writes what came of decoding; gives the exit code. -/
def finishDecode : Except DumpError DecodeReport → m UInt32
  | .error e => do
    Host.report e.message
    return 1
  | .ok r => do
    r.log.forM fun entry => Host.report entry.line
    Host.writeOutput (utf8 r.output)
    return if r.failed = 0 then 0 else 1

/-- Decodes a dump; gives the exit code. -/
def runDecode (settings : DecodeSettings) (json : Bool) (input : String) : m UInt32 := do
  match ← readDump input with
  | none =>
    Host.report ("cannot read " ++ input)
    return 1
  | some data => finishDecode (decodeDump settings json data)

/-- Builds a packet and writes it; gives the exit code. -/
def runEncode (request : EncodeRequest) (output : Option String) (hex : Bool) : m UInt32 := do
  let draw ← Host.drawNonce
  let bs := encodeOutput hex (request.build draw)
  match output with
  | none =>
    Host.writeOutput bs
    return 0
  | some path =>
    if ← Host.writeFile path bs then return 0
    else
      Host.report ("cannot write " ++ path)
      return 1

/-- Carries out a command under the settings of a file; gives the exit code. -/
def runCommand (config : ConfigFile) : Command → m UInt32
  | .decode input hex json schema =>
    runDecode (DecodeSettings.merge schema hex config.decode) json input
  | .encode request output hex => runEncode request output hex

/-- Carries out what is asked for; gives the exit code. -/
def runInvocation (asked : Invocation) : m UInt32 := do
  match ← loadConfig asked.config with
  | none =>
    Host.report "cannot load the settings file"
    return 1
  | some config =>
    match ← prepareLogs asked.verbose config.logging with
    | .ready => runCommand config asked.command
    | .noFilter =>
      Host.report "cannot read what is to be logged"
      return 101
    | .noDirectory =>
      Host.report "cannot make the directory for logs"
      return 1
    | .noFile =>
      Host.report "cannot open the log file"
      return 101

/-- The wording of a refusal. -/
def Refusal.message : Refusal → String
  | .answered text => text
  | .unknownOption text => "unknown option " ++ text
  | .missingValue name => "--" ++ name ++ " needs a value"
  | .unexpectedValue name => "--" ++ name ++ " takes no value"
  | .invalidValue name value => "invalid value " ++ Text.quoted value ++ " for " ++ name
  | .repeated name => "--" ++ name ++ " is given twice"
  | .unexpectedWord text => "unexpected argument " ++ Text.quoted text
  | .missingWord what => "missing " ++ what

/-- Says why a command line is not carried out; gives the exit code. To ask for information is no
error. -/
def refuse (refusal : Refusal) : m UInt32 := do
  match refusal with
  | .answered text =>
    Host.writeOutput (utf8 text)
    return 0
  | _ =>
    Host.report refusal.message
    return 2

/-- The program: carries out a command line and gives the exit code. -/
def inspect (args : List String) : m UInt32 := do
  match CommandLine.parse args with
  | .ok asked => runInvocation asked
  | .error refusal => refuse refusal

end

end NamedData.Inspect
