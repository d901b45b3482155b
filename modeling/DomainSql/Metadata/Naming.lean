import DomainSql.Metadata.Template

/-!
# Naming

How the names of tables, join tables and columns follow from the names of domains
and fields. Tables and the columns of join tables come from templates, and the
column of a field is the field itself or its folded form, in which every capital
letter becomes a small one behind an underscore.
-/
namespace DomainSql

/-- The name of a table. -/
abbrev TableName := String

/-- The name of a column. -/
abbrev ColumnName := String

/-- The names of a database. -/
structure Naming where
  /-- The table of a domain. -/
  tableFormat : String := "t_\x7b\x7d"
  /-- The join table of two domains in the order of a route's path. -/
  joinTableFormat : String := "j_\x7b\x7d_and_\x7b\x7d"
  /-- The column under which a domain stands in its join tables. -/
  joinIdFormat : String := "\x7b\x7d_id"
  /-- The column that identifies the rows of every domain table. -/
  idColumn : String := "id"
  /-- Whether the column of a field is its folded form. -/
  foldCase : Bool := true
deriving DecidableEq, Repr, Inhabited

namespace Naming

/-- The number of places in a template. -/
def placeholderCount (template : String) : Nat := Template.places template.toList

/-- Fill a template with names. -/
def fill (template : String) (names : List String) : String :=
  String.ofList (Template.fill template.toList (names.map String.toList))

/-- The table of a domain. -/
def tableName (naming : Naming) (domain : String) : TableName :=
  fill naming.tableFormat [domain]

/-- The join table of two domains. -/
def joinTableName (naming : Naming) (left right : String) : TableName :=
  fill naming.joinTableFormat [left, right]

/-- The column of a domain in its join tables. -/
def joinIdColumn (naming : Naming) (domain : String) : ColumnName :=
  fill naming.joinIdFormat [domain]

/-- A capital letter behind the first character opens with an underscore. -/
def foldInner : List Char → List Char
  | [] => []
  | c :: rest => if c.isUpper then '_' :: c.toLower :: foldInner rest else c :: foldInner rest

/-- The folded form of a field: capital letters become small ones, and all but a
leading one are marked by an underscore. -/
def foldField (field : String) : String :=
  match field.toList with
  | [] => ""
  | c :: rest => String.ofList (c.toLower :: foldInner rest)

/-- The column of a field. -/
def columnName (naming : Naming) (field : String) : ColumnName :=
  if naming.foldCase then foldField field else field

end Naming

end DomainSql
