import DomainSql.Configuration.Files
import DomainSql.Plan
import DomainSql.Sql.Layout

/-!
# Commands

Two commands work in a context folder: one writes the first configuration, and the
other compiles a request and prints its statements. A compiled statement takes two
lines or, laid out, more: its text, and its arguments as a JSON array. Nothing is
printed before all statements are compiled.
-/
namespace DomainSql.CommandLine

open Sql

/-- Why a command fails. -/
inductive Failure where
  | file (e : FileError)
  | requestUnread (path : String) (e : FileError)
  | alreadyConfigured (path : String)
  | notWritten (e : FileError)
  | notLoaded (e : Configuration.LoadError)
  | requestRefused (refusal : Json.Refusal)
  | notCompiled (e : CompileError)

/-- The words for a failure. -/
def Failure.message : Failure → String
  | .file e => e.message
  | .requestUnread path e => "unable to read " ++ path ++ ": " ++ e.message
  | .alreadyConfigured path => "a configuration already exists at " ++ path
  | .notWritten e => Configuration.writeFailure e
  | .notLoaded e => e.message
  | .requestRefused refusal => refusal.message
  | .notCompiled e => e.name ++ " (" ++ Nat.repr e.code ++ "): " ++ e.message

/-- A command. -/
inductive Command where
  /-- Write the first configuration of the context folder. -/
  | initialize_
  /-- Compile a request, read from a file or from the standard input. -/
  | compile (request : Option String) (pretty : Bool)
deriving DecidableEq, Repr

/-- The printed lines of a statement. -/
def printed (pretty : Bool) (statement : Prepared) : String :=
  (if pretty then Layout.lines statement.sql else statement.sql) ++ "\n" ++
    Json.text (.array (statement.arguments.map Value.scalar)) ++ "\n"

variable {m : Type → Type} [Monad m]

/-- Write the first configuration of a folder. A configuration that is there is
never replaced. -/
def initializeFolder (storage : Storage m) (folder : String) : Job m Failure String := do
  let path := pathIn folder Configuration.fileName
  if ← Job.operation .file (storage.pathExists path) then
    throw (.alreadyConfigured path)
  Job.part .notWritten (Configuration.writeTo storage folder .initial)
  Job.tell (.initialized folder)
  return ""

/-- Compile a request against the configuration of a folder, and give the text to
print. -/
def compileText (storage : Storage m) (folder request : String) (pretty : Bool) :
    Job m Failure String := do
  let metadata ← Job.part .notLoaded (Configuration.load storage folder)
  match Request.parse request with
  | .error refusal => throw (.requestRefused refusal)
  | .ok request =>
    let plan ← Job.traced .notCompiled (DomainSql.compile metadata request)
    return String.join (plan.prepared.map (printed pretty))

/-- Run a command in a context folder, and give the text to print. -/
def run (storage : Storage m) (input : m (Except FileError String)) (folder : String) :
    Command → Job m Failure String
  | .initialize_ => initializeFolder storage folder
  | .compile (some path) pretty => do
    let request ← Job.operation (.requestUnread path) (storage.readText path)
    compileText storage folder request pretty
  | .compile none pretty => do
    let request ← Job.operation .file input
    compileText storage folder request pretty

end DomainSql.CommandLine
