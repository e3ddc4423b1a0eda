import EstateFiling.Command.Perform

/-!
# The program

Collects what a command line reads, performs it and carries the outcome out.
-/

namespace EstateFiling

/-- The reason for which a file cannot be used, by the code of the system. -/
def faultOf : IO.Error → FileFault
  | .noFileOrDirectory .. => .missing
  | .permissionDenied _ code details | .inappropriateType _ code details
  | .invalidArgument _ code details | .otherError code details =>
      match code with
      | 20 => .notDirectory
      | 21 => .isDirectory
      | 36 => .nameTooLong
      | code => .other (details ++ " (os error " ++ toString code ++ ")")
  | e => .other (toString e)

/-- Reads a file. -/
def readFile (path : String) : IO (Except FileFault (List UInt8)) := do
  match ← (IO.FS.readBinFile path).toBaseIO with
  | .ok bytes => return .ok bytes.toList
  | .error e => return .error (faultOf e)

/-- Writes a file, or says why it cannot be written. -/
def writeFile (path text : String) : IO (Option FileFault) := do
  match ← (IO.FS.writeFile path text).toBaseIO with
  | .ok _ => return none
  | .error e => return some (faultOf e)

/-- The values of names in the environment. -/
def readEnvironment (names : List String) : IO Environment := do
  let mut values := []
  for name in names do
    if let some value ← IO.getEnv name then
      values := values ++ [(name, value)]
  return ⟨values⟩

/-- The text of the file of default values, which stands in the working directory
or in a directory around it. -/
def readEnvironmentFile : IO (Option String) := do
  let mut directory := some (← IO.currentDir)
  for _ in [0:256] do
    if let some here := directory then
      let candidate := here / ".env"
      if (← candidate.pathExists) && !(← candidate.isDir) then
        match ← readFile candidate.toString with
        | .ok bytes => return Text.ofUtf8? bytes
        | .error _ => return none
      directory := here.parent
  return none

/-- The workspace in which a command line runs. -/
def openWorkspace (i : Invocation) : IO Workspace := do
  let environmentFile ← readEnvironmentFile
  let environment ← readEnvironment
    (LogFilter.name :: Settings.names ++ EnvironmentFile.references (environmentFile.getD ""))
  let mut files := []
  for path in i.files do
    files := (path, ← readFile path) :: files
  let known := files
  return {
    environment := environment
    environmentFile := environmentFile
    read := fun path => (known.lookup path).getD (.error .missing)
    writeFault := fun _ => none }

/-- Carries an outcome out and gives the code to exit with. -/
def carryOut (outcome : Outcome) : IO UInt32 := do
  IO.print outcome.output
  IO.eprint outcome.errors
  if let some (path, text) := outcome.written then
    if let some fault ← writeFile path text then
      let failed := Outcome.ofFailure (.file fault)
      IO.eprint failed.errors
      return UInt32.ofNat failed.exitCode
  return UInt32.ofNat outcome.exitCode

end EstateFiling

open EstateFiling in
/-- Performs a command line. -/
def main (arguments : List String) : IO UInt32 := do
  let i := Invocation.ofArguments arguments
  carryOut (i.perform (← openWorkspace i))
