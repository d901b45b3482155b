import DomainSql.Sql.Statement

/-!
# The text of statements

A statement is rendered as a sequence of fragments, each of them fixed text or a
place for a value. The text of the statement shows every place as a placeholder,
and the arguments are the values of the places in order. Text and arguments come
from the same sequence, so a placeholder and its argument cannot go apart, and a
value has no way into the text.
-/
namespace DomainSql.Sql

/-- A piece of a rendered statement. -/
inductive Fragment where
  | text (words : String)
  | place (value : Scalar)
deriving DecidableEq, Repr

/-- The character that stands for a value. -/
def placeholder : Char := '?'

/-- A statement as it is given to a database: its text and the values of its
placeholders, in the order of the text. -/
structure Prepared where
  sql : String
  arguments : List Scalar
deriving DecidableEq, Repr, Inhabited

/-- The text of a fragment. -/
def Fragment.shown : Fragment → String
  | .text words => words
  | .place _ => placeholder.toString

/-- The value of a fragment, if it is a place. -/
def Fragment.value? : Fragment → Option Scalar
  | .text _ => none
  | .place value => some value

/-- Separate the text of fragments from their values. -/
def prepare (fragments : List Fragment) : Prepared where
  sql := String.join (fragments.map Fragment.shown)
  arguments := fragments.filterMap Fragment.value?

/-- The text of fragments in a row is their texts in a row. -/
theorem sql_prepare_append (first second : List Fragment) :
    (prepare (first ++ second)).sql = (prepare first).sql ++ (prepare second).sql := by
  simp [prepare]

/-- The arguments of fragments in a row are their arguments in a row. -/
theorem arguments_prepare_append (first second : List Fragment) :
    (prepare (first ++ second)).arguments =
      (prepare first).arguments ++ (prepare second).arguments := by
  simp [prepare]

/-- The number of placeholders in a text. -/
def Prepared.placeholders (prepared : Prepared) : Nat :=
  prepared.sql.toList.count placeholder

/-- Parts with a text between each two of them. -/
def separated (separator : String) (parts : List (List Fragment)) : List Fragment :=
  ((parts.intersperse [.text separator])).flatten

/-- A comparison with blanks around it. -/
def Comparison.keyword : Comparison → String
  | .equal => " = "
  | .notEqual => " != "
  | .greater => " > "
  | .greaterOrEqual => " >= "
  | .less => " < "
  | .lessOrEqual => " <= "
  | .like => " LIKE "
  | .notLike => " NOT LIKE "

/-- A membership test with blanks around it. -/
def Membership.keyword : Membership → String
  | .isIn => " IN "
  | .notIn => " NOT IN "

/-- A null test behind its column. -/
def NullTest.keyword : NullTest → String
  | .isNull => " IS NULL"
  | .isNotNull => " IS NOT NULL"

/-- A direction behind its column. -/
def Direction.keyword : Direction → String
  | .ascending => " ASC"
  | .descending => " DESC"

/-- A place for each value, between parentheses. -/
def valueList (values : List Scalar) : List Fragment :=
  .text "(" :: (separated ", " (values.map fun value => [.place value]) ++ [.text ")"])

/-- Names between commas. -/
def nameList (names : List String) : List Fragment :=
  separated ", " (names.map fun name => [.text name])

/-- The keyword in front of conditions; without conditions there is none. -/
def whereKeyword (conditions : List Condition) : List Fragment :=
  if conditions.isEmpty then [] else [.text " WHERE "]

mutual

/-- A condition. Alternatives stand in parentheses, so that they stay together
among conditions joined by `AND`. -/
def Condition.render : Condition → List Fragment
  | .compare column relation value => [.text column, .text relation.keyword, .place value]
  | .member column test values => .text column :: .text test.keyword :: valueList values
  | .nullTest column test => [.text column, .text test.keyword]
  | .anyOf alternatives => .text "(" :: (renderConditions " OR " alternatives ++ [.text ")"])
  | .inSelects column selects =>
    .text column :: .text " IN (" :: (renderSelects selects ++ [.text ")"])

/-- Conditions joined by a text. -/
def renderConditions (separator : String) : List Condition → List Fragment
  | [] => []
  | [condition] => condition.render
  | condition :: rest => condition.render ++ .text separator :: renderConditions separator rest

/-- A sub-select. -/
def SubSelect.render : SubSelect → List Fragment
  | .select column source conditions =>
    .text "SELECT " :: .text column :: .text " FROM " :: .text source ::
      (whereKeyword conditions ++ renderConditions " AND " conditions)

/-- Sub-selects of which the common ids are meant. -/
def renderSelects : List SubSelect → List Fragment
  | [] => []
  | [select] => select.render
  | select :: rest => select.render ++ .text " INTERSECT " :: renderSelects rest

end

/-- Conditions that all have to hold, behind their keyword. -/
def renderWhere (conditions : List Condition) : List Fragment :=
  whereKeyword conditions ++ renderConditions " AND " conditions

/-- What a selection gives. -/
def Projection.render : Projection → List Fragment
  | .all => [.text "*"]
  | .count => [.text "COUNT(*)"]
  | .columns names => nameList names

/-- An ordering by one column. -/
def OrderItem.render (item : OrderItem) : List Fragment :=
  [.text item.column, .text item.direction.keyword]

/-- An ordering behind its keyword; without items there is none. -/
def renderOrder (order : List OrderItem) : List Fragment :=
  if order.isEmpty then []
  else .text " ORDER BY " :: separated ", " (order.map OrderItem.render)

/-- A number behind its keyword. -/
def renderBound (keyword : String) : Option Nat → List Fragment
  | none => []
  | some bound => [.text keyword, .text (Nat.repr bound)]

/-- The given rows of a result. -/
def Window.render (window : Window) : List Fragment :=
  renderBound " LIMIT " (window.limit.map UInt32.toNat) ++
    renderBound " OFFSET " (window.offset.map UInt64.toNat)

/-- A selection. -/
def Select.render (select : Select) : List Fragment :=
  .text "SELECT " :: (select.projection.render ++ .text " FROM " :: .text select.source ::
    (renderWhere select.conditions ++ renderOrder select.order ++ select.window.render))

/-- An insertion. -/
def Insert.render (insert : Insert) : List Fragment :=
  .text "INSERT INTO " :: .text insert.table :: .text " (" :: (nameList insert.columns ++
    .text ") VALUES " :: separated ", " (insert.rows.map valueList))

/-- An assignment. -/
def renderAssignment (assignment : ColumnName × Scalar) : List Fragment :=
  [.text assignment.1, .text " = ", .place assignment.2]

/-- An update. -/
def Update.render (update : Update) : List Fragment :=
  .text "UPDATE " :: .text update.table :: .text " SET " ::
    (separated ", " (update.assignments.map renderAssignment) ++ renderWhere update.conditions)

/-- A removal. -/
def Delete.render (delete : Delete) : List Fragment :=
  .text "DELETE FROM " :: .text delete.table :: renderWhere delete.conditions

/-- A statement. -/
def Statement.render : Statement → List Fragment
  | .select statement => statement.render
  | .insert statement => statement.render
  | .update statement => statement.render
  | .delete statement => statement.render

/-- A statement as it is given to a database. -/
def Statement.prepare (statement : Statement) : Prepared := Sql.prepare statement.render

end DomainSql.Sql
