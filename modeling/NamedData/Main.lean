/-
The inspector as a program: the host that reads and writes real files.
-/
import NamedData.Inspect.Host

open NamedData
open NamedData.Inspect

/-- The result of an action that may fail, if it does not. -/
def succeed? {α : Type} (action : IO α) : IO (Option α) := do
  try
    return some (← action)
  catch _ => return none

/-- Reads a stream to its end. -/
partial def readAll (stream : IO.FS.Stream) (soFar : ByteArray) : IO ByteArray := do
  let chunk ← stream.read 65536
  if chunk.isEmpty then return soFar else readAll stream (soFar ++ chunk)

-- regular expressions are not compiled here, so any value can be asked for
instance : Host IO where
  environment name := IO.getEnv name
  takesValue := return fun _ => true
  readFile path := succeed? do
    return (← IO.FS.readBinFile path).toList
  isPresent path := do
    return (← succeed? (IO.FS.Handle.mk path .read)).isSome
  makeDirectory path := do
    try
      IO.FS.createDir path
      return .present
    catch
      | .noFileOrDirectory .. => return .noParent
      | _ => return if (← succeed? (IO.FS.createDirAll path)).isSome then .present else .refused
  openLog directory := do
    let path := Path.inDirectory directory logFileName
    return (← succeed? (IO.FS.Handle.mk path .append)).isSome
  writeFile path bs := do
    return (← succeed? (IO.FS.writeBinFile path bs.toByteArray)).isSome
  readInput := do
    return (← readAll (← IO.getStdin) ByteArray.empty).toList
  writeOutput bs := do
    let out ← IO.getStdout
    out.write bs.toByteArray
    out.flush
  report line := IO.eprintln line
  drawNonce := do
    return UInt32.ofNat (ofBigEndian (← IO.getRandomBytes 4).toList)

/-- Runs the inspector on the arguments of the program. -/
def main (args : List String) : IO UInt32 := inspect args
