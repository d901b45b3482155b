import DomainSql.Value
import DomainSql.Metadata.Naming

/-!
# Statements

The statements that requests are compiled into, as terms. A condition is about a
row of one table; it compares columns of the row with values, groups alternatives,
or asks whether a column is among the ids that sub-selects give. Values stand in
the terms themselves, their order in the text is the business of rendering.
-/
namespace DomainSql.Sql

/-- A comparison of a column with one value. -/
inductive Comparison where
  | equal
  | notEqual
  | greater
  | greaterOrEqual
  | less
  | lessOrEqual
  | like
  | notLike
deriving DecidableEq, Repr

/-- A test of a column against a list of values. -/
inductive Membership where
  | isIn
  | notIn
deriving DecidableEq, Repr

/-- A test of a column that needs no value. -/
inductive NullTest where
  | isNull
  | isNotNull
deriving DecidableEq, Repr

mutual

/-- A condition on a row. -/
inductive Condition where
  /-- The column stands in the relation to the value. -/
  | compare (column : ColumnName) (relation : Comparison) (value : Scalar)
  /-- The column is, or is not, one of the values. -/
  | member (column : ColumnName) (test : Membership) (values : List Scalar)
  /-- The column is, or is not, null. -/
  | nullTest (column : ColumnName) (test : NullTest)
  /-- At least one of the conditions holds. -/
  | anyOf (alternatives : List Condition)
  /-- The column is an id that all of the sub-selects give. -/
  | inSelects (column : ColumnName) (selects : List SubSelect)

/-- A selection of one column from the rows of a table that meet all conditions. -/
inductive SubSelect where
  | select (column : ColumnName) (source : TableName) (conditions : List Condition)

end

/-- A choice without alternatives serves where any condition will do. -/
instance : Inhabited Condition := ⟨.anyOf []⟩

/-- A sub-select without names serves where any one will do. -/
instance : Inhabited SubSelect := ⟨.select "" "" []⟩

/-- What a selection gives of each row, or the number of rows. -/
inductive Projection where
  | all
  | count
  | columns (names : List ColumnName)
deriving DecidableEq, Repr

/-- The direction of an ordering. -/
inductive Direction where
  | ascending
  | descending
deriving DecidableEq, Repr

/-- An ordering by one column. -/
structure OrderItem where
  column : ColumnName
  direction : Direction
deriving DecidableEq, Repr

/-- The rows of a result that are given: at most `limit` of them, behind the first
`offset`. -/
structure Window where
  limit : Option UInt32 := none
  offset : Option UInt64 := none
deriving DecidableEq, Repr

/-- A selection of rows. -/
structure Select where
  projection : Projection
  source : TableName
  conditions : List Condition := []
  order : List OrderItem := []
  window : Window := {}

/-- An insertion of rows; every row holds a value for every column. -/
structure Insert where
  table : TableName
  columns : List ColumnName
  rows : List (List Scalar)
deriving DecidableEq, Repr

/-- An assignment to columns of the rows that meet all conditions. -/
structure Update where
  table : TableName
  assignments : List (ColumnName × Scalar)
  conditions : List Condition := []

/-- A removal of the rows that meet all conditions. -/
structure Delete where
  table : TableName
  conditions : List Condition := []

/-- A statement. -/
inductive Statement where
  | select (statement : Select)
  | insert (statement : Insert)
  | update (statement : Update)
  | delete (statement : Delete)

/-- The selection of all rows of a table. -/
def Select.rowsOf (table : TableName) : Select := { projection := .all, source := table }

/-- The number of rows of a table that meet all conditions. -/
def Select.countOf (table : TableName) (conditions : List Condition) : Select :=
  { projection := .count, source := table, conditions := conditions }

end DomainSql.Sql
