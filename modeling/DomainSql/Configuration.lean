import DomainSql.Metadata.Document
import DomainSql.Text.Blank

/-!
# Configurations

A configuration document states the version of its format, where its schema is,
and the metadata. Metadata is only used after it has been validated: every naming
template must have as many places as names are put into it, and the id column
must not be blank.
-/
namespace DomainSql

open Json

/-- The versions of the format; there is one. -/
inductive Version where
  | one
deriving DecidableEq, Repr, Inhabited

/-- The contents of a configuration document. -/
structure Configuration where
  version : Version := .one
  schema : Option String := none
  metadata : Metadata := {}
deriving DecidableEq, Repr, Inhabited

/-- The name of a version in a document. -/
def Version.name : Version → String
  | .one => "1"

/-- The version of a name that has just been read. -/
def Version.ofName (name : String) (rest : List Char) : Except Failure Version :=
  if name = Version.one.name then .ok .one
  else .error (.after (.unknownVariant name Version.one.name) rest)

/-- The name of a version that is given as an object with that one key and null as
its value, after the opening brace. -/
def Version.readTagged : Scan Version := fun cs => do
  let (name, rest) ←
    match skipBlanks cs with
    | [] => .error (.at .endInObject [])
    | '"' :: rest => readQuotation rest
    | '}' :: rest => .error (.at .expectedValue ('}' :: rest))
    | cs => .error (.at .keyNotText cs)
  let version ← Version.ofName name rest
  let rest ← readColon rest
  let ((), rest) ← readPart (fun
    | 'n' :: rest => do .ok ((), ← readWord nullTail rest)
    | cs => .error (invalidType "unit" cs)) rest
  match skipBlanks rest with
  | [] => .error (.after .endInObject [])
  | '}' :: rest => .ok (version, rest)
  | rest => .error (.after .expectedValue rest)

/-- A version is given by its name, or as an object with that name as its key. -/
def Version.read : Reader Version := fun levels =>
  readPart fun cs =>
    match cs with
    | '{' :: rest => if levels = 0 then .error (.at .tooDeep cs) else Version.readTagged rest
    | '"' :: rest => do
      let (name, rest) ← readQuotation rest
      let version ← Version.ofName name rest
      .ok (version, rest)
    | _ => .error (.at .expectedValue cs)

namespace Configuration

/-- A configuration as a record; the version has to be there. -/
def record : Record Configuration where
  name := "ParsedConfiguration"
  draft := {}
  fields := [
    .needed "version" Version.read fun v c => { c with version := v },
    .optional "$schema" (readOptional readText) fun v c => { c with schema := v },
    .optional "metadata" (readRecord Metadata.record) fun v c => { c with metadata := v }]

/-- Read a configuration. -/
def parse (document : String) : Except Refusal Configuration :=
  Json.parse (readRecord record) document

/-- A configuration as a value. -/
def toValue (configuration : Configuration) : Value :=
  .mapping ([("version", .text configuration.version.name)] ++
    entryOf? "$schema" Value.text configuration.schema ++
    [("metadata", configuration.metadata.toValue)])

/-- The file that holds a configuration. -/
def fileName : String := "configuration.json"

/-- The file that holds the schema of configurations. -/
def schemaFileName : String := "schema.json"

/-- The configuration that a directory is initialized with: all settings have
their defaults. -/
def initial : Configuration where
  schema := some schemaFileName

/-- Why metadata is not accepted. -/
inductive Invalid where
  | badTemplate (field template : String) (expected found : Nat)
  | emptyIdColumn
deriving DecidableEq, Repr

/-- The name of a reason. -/
def Invalid.name : Invalid → String
  | .badTemplate .. => "InvalidTemplate"
  | .emptyIdColumn => "EmptyIdColumn"

/-- The words for a reason. -/
def Invalid.message : Invalid → String
  | .badTemplate field template expected found =>
    "naming template " ++ field ++ " '" ++ template ++ "' should contain exactly " ++
      Nat.repr expected ++ " placeholder(s), found " ++ Nat.repr found
  | .emptyIdColumn => "naming template idColumn should not be empty"

/-- A template must have the expected number of places. -/
def checkTemplate (field template : String) (expected : Nat) : Except Invalid Unit :=
  let found := Naming.placeholderCount template
  if found = expected then .ok () else .error (.badTemplate field template expected found)

/-- The metadata of a configuration, if it can be used. -/
def validate (configuration : Configuration) : Except Invalid Metadata := do
  let naming := configuration.metadata.naming
  checkTemplate "tableFormat" naming.tableFormat 1
  checkTemplate "joinTableFormat" naming.joinTableFormat 2
  checkTemplate "joinIdFormat" naming.joinIdFormat 1
  if naming.idColumn.toList.all Text.isBlank then .error .emptyIdColumn
  else .ok configuration.metadata

end Configuration

end DomainSql
