import QueryDsl.CommandLine.Program

/-!
# The command line program

Loads the source that the arguments ask for and carries out the report of the run.
-/

namespace QueryDsl.CommandLine

/-- The fault that an error of the system is. -/
def FileFault.ofError : IO.Error → FileFault
  | .noFileOrDirectory _ number reason => system reason number.toNat
  | .inappropriateType _ number reason => system reason number.toNat
  | .permissionDenied _ number reason => system reason number.toNat
  | .resourceExhausted _ number reason => system reason number.toNat
  | .noSuchThing _ number reason => system reason number.toNat
  | .interrupted _ number reason => system reason number.toNat
  | .resourceBusy number reason => system reason number.toNat
  | .hardwareFault number reason => system reason number.toNat
  | .otherError number reason => system reason number.toNat
  | .invalidArgument _ number reason => if number = 22 then nulInName else system reason number.toNat
  | e => system (toString e) 0

/-- The bytes of a file. -/
def loadFile (path : String) : IO Loaded := do
  match ← (IO.FS.Handle.mk path IO.FS.Mode.read).toBaseIO with
  | .error e => return .error (.opening (.ofError e))
  | .ok handle =>
    match ← handle.readBinToEnd.toBaseIO with
    | .error e => return .error (.reading (.ofError e))
    | .ok bytes => return .ok bytes

/-- The bytes of a stream, behind those that are read already. -/
partial def readAll (input : IO.FS.Stream) (bytes : ByteArray) : IO ByteArray := do
  let chunk ← input.read 65536
  if chunk.isEmpty then return bytes else readAll input (bytes ++ chunk)

/-- The bytes of a source. -/
def loadSource : Source → IO Loaded
  | .file path => loadFile path
  | .standardInput => do
    match ← (readAll (← IO.getStdin) .empty).toBaseIO with
    | .error e => return .error (.reading (.ofError e))
    | .ok bytes => return .ok bytes

end QueryDsl.CommandLine

open QueryDsl.CommandLine

/-- Runs the program on the arguments, the environment and the source that they ask for. -/
def main (args : List String) : IO UInt32 := do
  let specification ← IO.getEnv "RUST_LOG"
  let loaded ←
    match Program.source? args with
    | some source => loadSource source
    | none => pure (.ok .empty)
  let report := Program.run args specification fun _ => loaded
  IO.print report.stdout
  IO.eprint report.stderr
  return report.code
