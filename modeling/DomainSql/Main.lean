import DomainSql.CommandLine.Arguments

/-!
# The program

The command line over the files of the machine.
-/
namespace DomainSql.CommandLine

/-- The code of a failure. Some operations give it with the opposite sign. -/
def failureCode (code : UInt32) : UInt32 := if code < 0x80000000 then code else 0 - code

/-- The failure of an operation of the machine. -/
def machineFailure (e : IO.Error) : FileError :=
  let coded (code : UInt32) (details : String) : FileError :=
    let code := failureCode code
    if code = 2 then .notFound
    else if code = 17 then .alreadyExists
    else if code = 20 then .notDirectory
    else if code = 21 then .isDirectory
    else .other (details ++ " (os error " ++ Nat.repr code.toNat ++ ")")
  match e with
  | .noFileOrDirectory _ code details => coded code details
  | .alreadyExists _ code details => coded code details
  | .inappropriateType _ code details => coded code details
  | .permissionDenied _ code details => coded code details
  | other => .other other.toString

/-- Bytes as a text. -/
def textOfBytes (bytes : ByteArray) : Except FileError String :=
  match String.fromUTF8? bytes with
  | some text => .ok text
  | none => .error .notText

/-- An operation of the machine, with its failure as a value. -/
def attempt (operation : IO α) : IO (Except FileError α) := do
  try
    return .ok (← operation)
  catch e => return .error (machineFailure e)

/-- Whether there is something under a path. A path that cannot be followed is
opened, which tells a missing file from a path that leads through a file. -/
def existsOnMachine (path : String) : IO (Except FileError Bool) := do
  match ← attempt (IO.FS.realPath path) with
  | .ok _ => return .ok true
  | .error _ =>
    match ← attempt (IO.FS.Handle.mk path .read) with
    | .ok _ => return .ok true
    | .error .notFound => return .ok false
    | .error e => return .error e

/-- Create a folder, unless it is there. What is there is a folder if a path leads
through it. -/
def createOnMachine (path : String) : IO (Except FileError Unit) := do
  match ← attempt (IO.FS.createDir path) with
  | .error .alreadyExists =>
    let through : String := path ++ "/."
    match ← attempt (IO.FS.realPath through) with
    | .ok _ => return .ok ()
    | .error _ => return .error .alreadyExists
  | outcome => return outcome

/-- The operations on the files of the machine. -/
def machineStorage : Storage IO where
  pathExists := existsOnMachine
  readText path := do
    match ← attempt (IO.FS.readBinFile path) with
    | .ok bytes => return textOfBytes bytes
    | .error e => return .error e
  createFolders := createAll createOnMachine
  writeText path text := attempt (IO.FS.writeFile path text)

/-- The standard input as a text. -/
def standardInput : IO (Except FileError String) := do
  match ← attempt (do (← IO.getStdin).readBinToEnd) with
  | .ok bytes => return textOfBytes bytes
  | .error e => return .error e

end DomainSql.CommandLine

open DomainSql.CommandLine in
/-- Run the program with the words of the command line. -/
def main (words : List String) : IO UInt32 := do
  let environment ← IO.getEnv contextVariable
  let ending ← program machineStorage standardInput words environment
  IO.print ending.output
  IO.eprint ending.errors
  return UInt32.ofNat ending.code
