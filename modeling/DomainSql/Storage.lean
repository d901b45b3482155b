import DomainSql.Event

/-!
# Storage

The few operations on files that are needed, for any monad that has them. A
program written against this interface runs on the files of a machine and on a
directory that is a plain value. Every operation may fail, and says why.
-/
namespace DomainSql

/-- Why an operation on a file fails. -/
inductive FileError where
  | notFound
  | notDirectory
  | isDirectory
  | alreadyExists
  | notText
  | other (message : String)
deriving DecidableEq, Repr

/-- The words for a failure, those of the operating system where it has some. -/
def FileError.message : FileError → String
  | .notFound => "No such file or directory (os error 2)"
  | .notDirectory => "Not a directory (os error 20)"
  | .isDirectory => "Is a directory (os error 21)"
  | .alreadyExists => "File exists (os error 17)"
  | .notText => "stream did not contain valid UTF-8"
  | .other message => message

/-- The operations on files, by path. -/
structure Storage (m : Type → Type) where
  /-- Whether there is something under a path. -/
  pathExists : String → m (Except FileError Bool)
  /-- The text of a file. -/
  readText : String → m (Except FileError String)
  /-- Create a folder and the folders it lies in, as far as they are missing. -/
  createFolders : String → m (Except FileError Unit)
  /-- Write a text into a file, in place of what it held. -/
  writeText : String → String → m (Except FileError Unit)

/-- The path of a file in a folder. -/
def pathIn (folder name : String) : String :=
  if folder.isEmpty ∨ folder.toList.getLast? = some '/' then folder ++ name
  else folder ++ "/" ++ name

/-- Whether a path starts at the top of all files. -/
def startsAtTop (path : String) : Bool := path.toList.head? = some '/'

/-- The names of a path, which are blank where nothing stands between two slashes. -/
def pathNames (path : String) : List String := (path.toList.splitOn '/').map String.ofList

/-- The paths of the names up to each one but the last, the longest first. -/
def pathsBeforeLast (start : String) : List String → List String
  | [] | [_] => []
  | name :: names => pathsBeforeLast (pathIn start name) names ++ [pathIn start name]

/-- The folders that a path names on its way, the one next to its end first. A blank
name and a point lead nowhere and name no folder; two points do. -/
def foldersOnWay (path : String) : List String :=
  pathsBeforeLast (if startsAtTop path then "/" else "")
    ((pathNames path).filter fun name => name ≠ "" ∧ name ≠ ".")

/-- Create a folder, and once more when a folder on the way to it was missing and has
been created. What has been created stays, also if the second try fails. -/
def createAlong {m : Type → Type} [Monad m] (create : String → m (Except FileError Unit))
    (path : String) : List String → m (Except FileError Unit)
  | [] => create path
  | outer :: further => do
    match ← create path with
    | .error .notFound =>
      match ← createAlong create outer further with
      | .ok () => create path
      | .error e => return .error e
    | outcome => return outcome

/-- Create a folder and the folders on the way to it, as far as they are missing, by
an operation that creates one folder. -/
def createAll {m : Type → Type} [Monad m] (create : String → m (Except FileError Unit))
    (path : String) : m (Except FileError Unit) :=
  createAlong create path (foldersOnWay path)

/-- Storage as it is seen from a folder: a path that does not start at the top starts
in the folder. -/
def Storage.seenFrom {m : Type → Type} (storage : Storage m) (folder : String) : Storage m :=
  let placed (path : String) := if startsAtTop path then path else pathIn folder path
  { pathExists := fun path => storage.pathExists (placed path)
    readText := fun path => storage.readText (placed path)
    createFolders := fun path => storage.createFolders (placed path)
    writeText := fun path text => storage.writeText (placed path) text }

/-- Work on storage: it may fail, and tells events in order. -/
abbrev Job (m : Type → Type) (ε : Type) := ExceptT ε (StateT (List Event) m)

namespace Job

variable {m : Type → Type} [Monad m]

/-- Tell an event. -/
def tell (event : Event) : Job m ε Unit := modify (· ++ [event])

/-- An operation on storage, with its failure as one of the job. -/
def operation (wrap : FileError → ε) (outcome : m (Except FileError α)) : Job m ε α := do
  match ← (liftM outcome : StateT (List Event) m (Except FileError α)) with
  | .ok a => return a
  | .error e => throw (wrap e)

/-- A part of a job, with its failure as one of the job. -/
def part (wrap : ε → δ) (job : Job m ε α) : Job m δ α := ExceptT.adapt wrap job

/-- Traced work as a part of a job. -/
def traced (wrap : ε → δ) (work : Traced ε α) : Job m δ α := do
  modify (· ++ work.events)
  match work.outcome with
  | .ok a => return a
  | .error e => throw (wrap e)

end Job

end DomainSql
