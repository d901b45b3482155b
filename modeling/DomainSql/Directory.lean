import DomainSql.Entries
import DomainSql.Storage

/-!
# Directories as values

A directory is a tree of folders and files. A path is followed from the top, one
name after the other; a file on the way that is not its end is no folder, and the
name of the parent only leads up from a folder that is there. A folder is created in
a folder that is there, so creating one with all folders around it takes one change
after the other, and the changes made before a failure stay.
-/
namespace DomainSql

/-- A file or a folder. A file holds a text, or bytes that are no text. -/
inductive Node where
  | file (text : Option String)
  | folder (entries : List (String × Node))
deriving Inhabited

namespace Node

/-- The folder without entries. -/
def empty : Node := .folder []

/-- The node under the names of a path. -/
def find : List String → Node → Except FileError Node
  | [], node => .ok node
  | _ :: _, .file _ => .error .notDirectory
  | name :: names, .folder entries =>
    match entries.lookup name with
    | none => .error .notFound
    | some node => node.find names

/-- Change what is under the names of a path, which may be nothing. The names in
front of the last one are folders that are there. -/
def alter (change : Option Node → Except FileError Node) : List String → Node →
    Except FileError Node
  | [], node => change (some node)
  | _ :: _, .file _ => .error .notDirectory
  | [name], .folder entries => do
    let node ← change (entries.lookup name)
    return .folder (Entries.set name node entries)
  | name :: names, .folder entries =>
    match entries.lookup name with
    | none => .error .notFound
    | some node => do return .folder (Entries.set name (← alter change names node) entries)

/-- A file, in place of another one or of nothing. -/
def fileInstead (text : Option String) : Option Node → Except FileError Node
  | some (.folder _) => .error .isDirectory
  | _ => .ok (.file text)

/-- A folder, in place of nothing. A folder that is there stays as it is. -/
def folderInstead : Option Node → Except FileError Node
  | none => .ok empty
  | some (.folder entries) => .ok (.folder entries)
  | some (.file _) => .error .alreadyExists

/-- The names of a path without detours. A blank name and a point stay where they
are, two points lead up, and either asks for a folder to be there. -/
def follow (top : Node) (passed : List String) : List String → Except FileError (List String)
  | [] => .ok passed.reverse
  | name :: names =>
    if name = "" ∨ name = "." ∨ name = ".." then
      match top.find passed.reverse with
      | .ok (.folder _) => follow top (if name = ".." then passed.drop 1 else passed) names
      | .ok (.file _) => .error .notDirectory
      | .error e => .error e
    else follow top (name :: passed) names

/-- The names of a path from the top. -/
def names (top : Node) (path : String) : Except FileError (List String) :=
  follow top [] (pathNames path)

/-- The names of a path under which a folder is created. Blank names behind the last
one ask for nothing, for the folder need not be there. -/
def folderNames (top : Node) (path : String) : Except FileError (List String) :=
  follow top [] ((pathNames path).reverse.dropWhile (·.isEmpty)).reverse

/-- The node under a path. -/
def findPath (top : Node) (path : String) : Except FileError Node := do
  top.find (← top.names path)

/-- Whether there is something under a path. Nothing is there if a folder on the
way is missing, but a file on the way is a failure. -/
def hasPath (top : Node) (path : String) : Except FileError Bool :=
  match top.findPath path with
  | .ok _ => .ok true
  | .error .notFound => .ok false
  | .error e => .error e

/-- The text of the file under a path. -/
def readPath (top : Node) (path : String) : Except FileError String := do
  match ← top.findPath path with
  | .folder _ => .error .isDirectory
  | .file none => .error .notText
  | .file (some text) => .ok text

/-- Write a file under a path. -/
def writePath (text : Option String) (path : String) (top : Node) : Except FileError Node := do
  top.alter (fileInstead text) (← top.names path)

/-- Create a folder under a path, unless it is there. -/
def createPath (path : String) (top : Node) : Except FileError Node := do
  top.alter folderInstead (← top.folderNames path)

/-- The names in the folder under a path, in order. -/
def list (top : Node) (path : String) : Except FileError (List String) := do
  match ← top.findPath path with
  | .folder entries => .ok ((entries.map (·.1)).mergeSort fun a b => a ≤ b)
  | .file _ => .error .notDirectory

end Node

/-- Apply a change that may fail; a failure leaves the directory as it was. -/
def changeDirectory (change : Node → Except FileError Node) :
    StateM Node (Except FileError Unit) := fun top =>
  match change top with
  | .ok changed => (.ok (), changed)
  | .error e => (.error e, top)

/-- The operations on a directory that is a value. -/
def directoryStorage : Storage (StateM Node) where
  pathExists path := fun top => (top.hasPath path, top)
  readText path := fun top => (top.readPath path, top)
  createFolders := createAll fun path => changeDirectory (Node.createPath path)
  writeText path text := changeDirectory (Node.writePath (some text) path)

end DomainSql
