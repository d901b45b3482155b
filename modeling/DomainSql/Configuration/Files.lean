import DomainSql.Configuration.Schema
import DomainSql.Storage

/-!
# Configurations in a folder

A folder holds its configuration and beside it the schema. A folder without a
configuration has the defaults. Writing creates the folder, then writes the
configuration, then the schema, and ends with the first operation that fails.
-/
namespace DomainSql.Configuration

/-- Why a configuration is not read. -/
inductive ReadError where
  | refused (path : String) (refusal : Json.Refusal)
  | file (e : FileError)
  | fileAt (path : String) (e : FileError)

/-- The words for a reason. -/
def ReadError.message : ReadError → String
  | .refused path refusal =>
    "parse error on " ++ path ++ ":" ++ Nat.repr refusal.line ++ ":" ++
      Nat.repr refusal.column ++ ": " ++ refusal.message
  | .file e => "I/O error: " ++ e.message
  | .fileAt path e => "I/O error: " ++ path ++ ": " ++ e.message

/-- Why the metadata of a folder is not loaded. -/
inductive LoadError where
  | read (e : ReadError)
  | invalid (e : Invalid)

/-- The words for a reason. -/
def LoadError.message : LoadError → String
  | .read e => e.message
  | .invalid e => e.message

/-- The words for a failure to write a configuration. -/
def writeFailure (e : FileError) : String := "I/O error: " ++ e.message

variable {m : Type → Type} [Monad m]

/-- Read the configuration of a folder. -/
def readFrom (storage : Storage m) (folder : String) : Job m ReadError Configuration := do
  let path := pathIn folder fileName
  let text ← Job.operation (.fileAt path) (storage.readText path)
  match Configuration.parse text with
  | .error refusal => throw (.refused path refusal)
  | .ok configuration =>
    Job.tell (.configurationRead path)
    return configuration

/-- Load the metadata of a folder. -/
def load (storage : Storage m) (folder : String) : Job m LoadError Metadata := do
  let path := pathIn folder fileName
  let there ← Job.operation (fun e => .read (.file e)) (storage.pathExists path)
  if there then
    let configuration ← Job.part .read (readFrom storage folder)
    match configuration.validate with
    | .error e => throw (.invalid e)
    | .ok metadata => return metadata
  else
    Job.tell (.defaultsUsed path)
    return {}

/-- A document as the text of a file. -/
def fileText (document : Value) : String := Json.prettyText document ++ "\n"

/-- Write a configuration and the schema into a folder. -/
def writeTo (storage : Storage m) (folder : String) (configuration : Configuration) :
    Job m FileError Unit := do
  Job.operation id (storage.createFolders folder)
  Job.operation id (storage.writeText (pathIn folder fileName) (fileText configuration.toValue))
  Job.operation id (storage.writeText (pathIn folder schemaFileName) (fileText schemaDocument))

end DomainSql.Configuration
