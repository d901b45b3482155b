import DomainSql.Configuration

/-!
# The schema of configurations

The JSON schema that stands beside a configuration and describes its settings
with their defaults.
-/
namespace DomainSql.Configuration

/-- A reference to a definition of the schema, as the only alternative. -/
def reference (name : String) : String × Value :=
  ("allOf", .array [.mapping [("$ref", .text ("#/definitions/" ++ name))]])

/-- A setting of a definition: its description, default and type. -/
def setting (name description : String) (default_ : Value) (type : Mapping) : String × Value :=
  (name, .mapping ([("description", .text description), ("default", default_)] ++ type))

/-- The type of a setting that is a text. -/
def textType : Mapping := [("type", .text "string")]

/-- The type of a setting that is a truth value. -/
def boolType : Mapping := [("type", .text "boolean")]

/-- The type of a setting that is a whole number of 32 bits. Its minimum is a
double, and a double is always written with a point. -/
def word32Type : Mapping :=
  [("type", .text "integer"), ("format", .text "uint32"),
    ("minimum", .scalar (.number (.double ⟨false, 0⟩)))]

/-- A definition of an object with optional settings. -/
def definition (name description : String) (settings : Mapping) : String × Value :=
  (name, .mapping [("description", .text description), ("type", .text "object"),
    ("properties", .mapping settings)])

/-- The settings of names. -/
def namingDefinition : String × Value :=
  let defaults : Naming := {}
  definition "NamingConvention"
    ("Naming templates used to resolve tables and columns from domain names.\n\n" ++
      "Templates contain `\x7b\x7d` placeholders which are filled left to right.")
    [setting "tableFormat" "Table name of a domain, e.g. `t_\x7b\x7d`."
      (.text defaults.tableFormat) textType,
    setting "joinTableFormat"
      "Join table name of an ordered pair of domains, e.g. `j_\x7b\x7d_and_\x7b\x7d`."
      (.text defaults.joinTableFormat) textType,
    setting "joinIdFormat"
      "Column a domain contributes to the join tables it takes part in, e.g. `\x7b\x7d_id`."
      (.text defaults.joinIdFormat) textType,
    setting "idColumn" "Primary key column of every domain table."
      (.text defaults.idColumn) textType,
    setting "mapCamelCaseToUnderscore"
      "Map `userName` to `user_name` when deriving column names from keys."
      (.bool defaults.foldCase) boolType]

/-- The settings of pages. -/
def pagingDefinition : String × Value :=
  let defaults : Paging := {}
  definition "PagingSettings" "How page requests are turned into LIMIT/OFFSET values."
    [setting "defaultPageSize" "Page size used when a page request does not carry one."
      (word32 defaults.defaultPageSize) word32Type,
    setting "startPageNumberFromOne" "Whether the first page is numbered 1 (otherwise 0)."
      (.bool defaults.startPageNumberFromOne) boolType]

/-- The metadata, with its two groups of settings. -/
def metadataDefinition : String × Value :=
  let defaults : Metadata := {}
  definition "Metadata" "Metadata information."
    [("naming", .mapping [("default", defaults.naming.toValue), reference "NamingConvention"]),
    ("paging", .mapping [("default", defaults.paging.toValue), reference "PagingSettings"])]

/-- The versions of the format. -/
def versionDefinition : String × Value :=
  ("Version", .mapping [("type", .text "string"), ("enum", textArray [Version.one.name])])

/-- The dialect of schemas that the schema is written in. -/
def dialect : String := String.join ["http:", "//json-schema.org/", "draft-07/", "schema#"]

/-- The schema of configurations. -/
def schemaDocument : Value :=
  let defaults : Metadata := {}
  .mapping [("$schema", .text dialect),
    ("title", .text record.name),
    ("description", .text ("The contents of `" ++ fileName ++ "`.")),
    ("type", .text "object"),
    ("required", textArray ["version"]),
    ("properties", .mapping [
      ("version", .mapping [
        ("description", .text "Which version of the configuration format are we using."),
        reference "Version"]),
      ("$schema", .mapping [("type", textArray ["string", "null"])]),
      ("metadata", .mapping [
        ("description", .text "Naming conventions and paging defaults."),
        ("default", defaults.toValue),
        reference "Metadata"])]),
    ("definitions", .mapping
      [versionDefinition, metadataDefinition, namingDefinition, pagingDefinition])]

end DomainSql.Configuration
