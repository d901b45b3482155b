import DomainSql.Proofs.Words

/-!
# Statements with their values in place

A statement can also be written without placeholders, every value where it belongs.
This is done here from the terms themselves and not by way of fragments, with any
way of writing values. Rendering says the same: fragments with a value written at
every place are the statement written in one go.
-/
namespace DomainSql.Sql

section
variable (print : Scalar → String)

/-- Values between parentheses. -/
def spelledValues (values : List Scalar) : String :=
  "(" ++ ", ".intercalate (values.map print) ++ ")"

mutual

/-- A condition with its values in place. -/
def Condition.spelled : Condition → String
  | .compare column relation value => column ++ relation.keyword ++ print value
  | .member column test values => column ++ test.keyword ++ spelledValues print values
  | .nullTest column test => column ++ test.keyword
  | .anyOf alternatives => "(" ++ " OR ".intercalate (spelledConditions alternatives) ++ ")"
  | .inSelects column selects =>
    column ++ " IN (" ++ " INTERSECT ".intercalate (spelledSelects selects) ++ ")"

/-- Conditions, each with its values in place. -/
def spelledConditions : List Condition → List String
  | [] => []
  | condition :: rest => condition.spelled :: spelledConditions rest

/-- A sub-select with its values in place. -/
def SubSelect.spelled : SubSelect → String
  | .select column source conditions =>
    "SELECT " ++ column ++ " FROM " ++ source ++
      if conditions.isEmpty then ""
      else " WHERE " ++ " AND ".intercalate (spelledConditions conditions)

/-- Sub-selects, each with its values in place. -/
def spelledSelects : List SubSelect → List String
  | [] => []
  | select :: rest => select.spelled :: spelledSelects rest

end

/-- Conditions that all have to hold, behind their keyword. -/
def spelledWhere (conditions : List Condition) : String :=
  if conditions.isEmpty then ""
  else " WHERE " ++ " AND ".intercalate (spelledConditions print conditions)

/-- What a selection gives. -/
def Projection.spelled : Projection → String
  | .all => "*"
  | .count => "COUNT(*)"
  | .columns names => ", ".intercalate names

/-- An ordering by one column. -/
def OrderItem.spelled (item : OrderItem) : String := item.column ++ item.direction.keyword

/-- An ordering behind its keyword. -/
def spelledOrder (order : List OrderItem) : String :=
  if order.isEmpty then "" else " ORDER BY " ++ ", ".intercalate (order.map OrderItem.spelled)

/-- A number behind its keyword. -/
def spelledBound (keyword : String) : Option Nat → String
  | none => ""
  | some bound => keyword ++ bound.repr

/-- The given rows of a result. -/
def Window.spelled (window : Window) : String :=
  spelledBound " LIMIT " (window.limit.map UInt32.toNat) ++
    spelledBound " OFFSET " (window.offset.map UInt64.toNat)

/-- A selection. -/
def Select.spelled (select : Select) : String :=
  String.join ["SELECT ", select.projection.spelled, " FROM ", select.source,
    spelledWhere print select.conditions, spelledOrder select.order, select.window.spelled]

/-- An insertion. -/
def Insert.spelled (insert : Insert) : String :=
  String.join ["INSERT INTO ", insert.table, " (", ", ".intercalate insert.columns, ") VALUES ",
    ", ".intercalate (insert.rows.map (spelledValues print))]

/-- An assignment. -/
def spelledAssignment (assignment : ColumnName × Scalar) : String :=
  assignment.1 ++ " = " ++ print assignment.2

/-- An update. -/
def Update.spelled (update : Update) : String :=
  String.join ["UPDATE ", update.table, " SET ",
    ", ".intercalate (update.assignments.map (spelledAssignment print)),
    spelledWhere print update.conditions]

/-- A removal. -/
def Delete.spelled (delete : Delete) : String :=
  String.join ["DELETE FROM ", delete.table, spelledWhere print delete.conditions]

/-- A statement with its values in place. -/
def Statement.spelled : Statement → String
  | .select statement => statement.spelled print
  | .insert statement => statement.spelled print
  | .update statement => statement.spelled print
  | .delete statement => statement.spelled print

/-- Fragments with a value written at every place. -/
def spell (fragments : List Fragment) : String :=
  String.join (fragments.map fun
    | .text words => words
    | .place value => print value)

end

section
variable {print : Scalar → String}

/-- Nothing is spelled by nothing. -/
@[simp]
theorem spell_nil : spell print [] = "" := rfl

/-- A text is spelled as it is. -/
@[simp]
theorem spell_text (words : String) (rest : List Fragment) :
    spell print (.text words :: rest) = words ++ spell print rest := by
  simp [spell]

/-- A place is spelled by its value. -/
@[simp]
theorem spell_place (value : Scalar) (rest : List Fragment) :
    spell print (.place value :: rest) = print value ++ spell print rest := by
  simp [spell]

/-- Fragments are spelled one behind the other. -/
@[simp]
theorem spell_append (first second : List Fragment) :
    spell print (first ++ second) = spell print first ++ spell print second := by
  simp [spell]

/-- A list is written with its separator between its entries. -/
@[simp]
theorem spell_separated (separator : String) (parts : List (List Fragment)) :
    spell print (separated separator parts) =
      separator.intercalate (parts.map (spell print)) := by
  induction parts with
  | nil => simp [separated]
  | cons first rest ih =>
    cases rest with
    | nil => simp [separated]
    | cons second others =>
      simp [separated_cons_cons, ih, String.intercalate_cons_cons, String.append_assoc]

/-- Conditions are spelled one by one. -/
theorem spelledConditions_eq_map (conditions : List Condition) :
    spelledConditions print conditions = conditions.map (Condition.spelled print) := by
  induction conditions with
  | nil => rfl
  | cons condition rest ih => simp [spelledConditions, ih]

/-- Sub-selects are spelled one by one. -/
theorem spelledSelects_eq_map (selects : List SubSelect) :
    spelledSelects print selects = selects.map (SubSelect.spelled print) := by
  induction selects with
  | nil => rfl
  | cons select rest ih => simp [spelledSelects, ih]

/-- A list of values is spelled with commas in parentheses. -/
@[simp]
theorem spell_valueList (values : List Scalar) :
    spell print (valueList values) = spelledValues print values := by
  simp [valueList, spelledValues, Function.comp_def, String.append_assoc]

/-- A list of names is spelled with commas. -/
@[simp]
theorem spell_nameList (names : List String) :
    spell print (nameList names) = ", ".intercalate names := by
  simp [nameList, Function.comp_def]

/-- Conditions behind `WHERE` are written as each of them is. -/
theorem spell_renderWhere_of {conditions : List Condition}
    (each : ∀ condition ∈ conditions, spell print condition.render = condition.spelled print) :
    spell print (renderWhere conditions) = spelledWhere print conditions := by
  have entries : (conditions.map Condition.render).map (spell print) =
      conditions.map (Condition.spelled print) := by simpa using each
  unfold renderWhere whereKeyword spelledWhere
  rw [spell_append, renderConditions_eq_separated, spell_separated, entries,
    spelledConditions_eq_map]
  cases conditions <;> simp

/-- A sub-select is spelled as it should be when its conditions are. -/
theorem spell_subSelect_of {select : SubSelect} (each : ∀ condition ∈ select.conditions,
    spell print condition.render = condition.spelled print) :
    spell print select.render = select.spelled print := by
  obtain ⟨column, source, conditions⟩ := select
  have written := spell_renderWhere_of each
  simp only [SubSelect.conditions] at written
  simp [SubSelect.render_eq, written, SubSelect.spelled, spelledWhere, String.append_assoc]

/-- A rendered condition is the condition written with its values in place. -/
theorem spell_condition (condition : Condition) :
    spell print condition.render = condition.spelled print := by
  induction condition with
  | compare column relation value =>
    simp [Condition.render, Condition.spelled, String.append_assoc]
  | member column test values =>
    simp [Condition.render, Condition.spelled, String.append_assoc]
  | nullTest column test => simp [Condition.render, Condition.spelled]
  | anyOf alternatives each =>
    have entries : (alternatives.map Condition.render).map (spell print) =
        alternatives.map (Condition.spelled print) := by simpa using each
    rw [Condition.render, Condition.spelled, renderConditions_eq_separated,
      spelledConditions_eq_map, ← entries]
    simp [String.append_assoc]
  | inSelects column selects each =>
    have entries : (selects.map SubSelect.render).map (spell print) =
        selects.map (SubSelect.spelled print) := by
      simpa using fun select inside => spell_subSelect_of (each select inside)
    rw [Condition.render, Condition.spelled, renderSelects_eq_separated, spelledSelects_eq_map,
      ← entries]
    simp [String.append_assoc]

/-- Rendered sub-selects are the sub-selects written with their values in place. -/
theorem spell_selects (selects : List SubSelect) :
    spell print (renderSelects selects) =
      " INTERSECT ".intercalate (spelledSelects print selects) := by
  have entries : (selects.map SubSelect.render).map (spell print) =
      selects.map (SubSelect.spelled print) := by
    rw [List.map_map]
    apply List.map_congr_left
    intro select _
    apply spell_subSelect_of
    intro condition _
    exact spell_condition condition
  rw [renderSelects_eq_separated, spell_separated, spelledSelects_eq_map, entries]

/-- Rendered conditions behind `WHERE` are the conditions written with their values
in place. -/
theorem spell_where (conditions : List Condition) :
    spell print (renderWhere conditions) = spelledWhere print conditions :=
  spell_renderWhere_of fun condition _ => spell_condition condition

/-- An entry of an order is spelled by its column and its direction. -/
@[simp]
theorem spell_orderItem (item : OrderItem) : spell print item.render = item.spelled := by
  simp [OrderItem.render, OrderItem.spelled]

/-- An order is spelled by its entries. -/
theorem spell_renderOrder (order : List OrderItem) :
    spell print (renderOrder order) = spelledOrder order := by
  unfold renderOrder spelledOrder
  split <;> simp [Function.comp_def]

/-- A bound is spelled by its keyword and its number. -/
theorem spell_renderBound (keyword : String) (bound : Option Nat) :
    spell print (renderBound keyword bound) = spelledBound keyword bound := by
  cases bound <;> simp [renderBound, spelledBound]

/-- A projection is spelled by its columns or its mark. -/
theorem spell_projection (projection : Projection) :
    spell print projection.render = projection.spelled := by
  cases projection <;> simp [Projection.render, Projection.spelled]

/-- An assignment is spelled by its column and its value. -/
@[simp]
theorem spell_assignment (assignment : ColumnName × Scalar) :
    spell print (renderAssignment assignment) = spelledAssignment print assignment := by
  simp [renderAssignment, spelledAssignment, String.append_assoc]

/-- The rendering of a selection is spelled as the selection is. -/
theorem spell_select (select : Select) :
    spell print select.render = select.spelled print := by
  simp [Select.render, Select.spelled, spell_projection, spell_where, spell_renderOrder,
    Window.render, Window.spelled, spell_renderBound]

/-- The rendering of an insert is spelled as the insert is. -/
theorem spell_insert (insert : Insert) :
    spell print insert.render = insert.spelled print := by
  simp [Insert.render, Insert.spelled, Function.comp_def]

/-- The rendering of an update is spelled as the update is. -/
theorem spell_update (update : Update) :
    spell print update.render = update.spelled print := by
  simp [Update.render, Update.spelled, spell_where, Function.comp_def]

/-- The rendering of a removal is spelled as the removal is. -/
theorem spell_delete (delete : Delete) :
    spell print delete.render = delete.spelled print := by
  simp [Delete.render, Delete.spelled, spell_where]

/-- A rendered statement is the statement written with its values in place. -/
theorem spell_statement (statement : Statement) :
    spell print statement.render = statement.spelled print := by
  cases statement with
  | select select => exact spell_select select
  | insert insert => exact spell_insert insert
  | update update => exact spell_update update
  | delete delete => exact spell_delete delete

end

end DomainSql.Sql
