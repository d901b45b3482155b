import DomainSql.Proofs.Spelling
import Mathlib.Logic.Basic

/-!
# Statements around their clause

A selection, a removal and an update have their conditions in a clause of their text,
and nothing but assigned values beside the arguments of the clause. So two statements
with the same conditions show the same clause and have the same arguments for it,
whatever stands in front of the clause and behind it.
-/
namespace DomainSql.Sql

/-- The text of fragments is written with a placeholder for every value. -/
theorem sql_prepare (fragments : List Fragment) :
    (prepare fragments).sql = spell (fun _ => "?") fragments := by
  refine congrArg String.join (List.map_congr_left fun fragment _ => ?_)
  cases fragment <;> rfl

/-- A list has the values of its entries. -/
theorem arguments_separated (separator : String) (parts : List (List Fragment)) :
    (prepare (separated separator parts)).arguments =
      parts.flatMap fun part => (prepare part).arguments := by
  induction parts with
  | nil => rfl
  | cons first rest ih =>
    cases rest with
    | nil => simp [separated]
    | cons second others =>
      rw [separated_cons_cons, arguments_prepare_append, arguments_text, ih]
      rfl

/-- Columns bind nothing. -/
theorem arguments_projection (projection : Projection) :
    (prepare projection.render).arguments = [] := by
  cases projection with
  | all => rfl
  | count => rfl
  | columns names =>
    rw [Projection.render, nameList, arguments_separated, List.flatMap_map]
    exact List.flatMap_eq_nil_iff.mpr fun _ _ => rfl

/-- An order binds nothing. -/
theorem arguments_order (order : List OrderItem) :
    (prepare (renderOrder order)).arguments = [] := by
  unfold renderOrder
  split
  · rfl
  · rw [arguments_text, arguments_separated, List.flatMap_map]
    exact List.flatMap_eq_nil_iff.mpr fun _ _ => rfl

/-- A window is written with numbers and binds nothing. -/
theorem arguments_window (window : Window) : (prepare window.render).arguments = [] := by
  obtain ⟨limit, offset⟩ := window
  cases limit <;> cases offset <;> rfl

/-- The arguments of a selection are those of its conditions. -/
theorem Select.arguments_render (select : Select) :
    (prepare select.render).arguments = (prepare (renderWhere select.conditions)).arguments := by
  simp [render, arguments_text, arguments_prepare_append, arguments_projection, arguments_order,
    arguments_window]

/-- The arguments of a removal are those of its conditions. -/
theorem Delete.arguments_render (delete : Delete) :
    (prepare delete.render).arguments = (prepare (renderWhere delete.conditions)).arguments := rfl

/-- The arguments of an update are the assigned values, and behind them those of its
conditions. -/
theorem Update.arguments_render (update : Update) :
    (prepare update.render).arguments =
      update.assignments.map Prod.snd ++ (prepare (renderWhere update.conditions)).arguments := by
  have assigned : (prepare (separated ", " (update.assignments.map renderAssignment))).arguments =
      update.assignments.map Prod.snd := by
    rw [arguments_separated, List.flatMap_map, List.map_eq_flatMap]
    rfl
  rw [render, arguments_text, arguments_text, arguments_text, arguments_prepare_append, assigned]

/-- A selection as it is given to a database. -/
theorem Select.prepare_eq (select : Select) :
    (Statement.select select).prepare =
      ⟨"SELECT " ++ select.projection.spelled ++ " FROM " ++ select.source ++
        (prepare (renderWhere select.conditions)).sql ++ spelledOrder select.order ++
        select.window.spelled, (prepare (renderWhere select.conditions)).arguments⟩ := by
  have text : (prepare select.render).sql =
      "SELECT " ++ select.projection.spelled ++ " FROM " ++ select.source ++
        (prepare (renderWhere select.conditions)).sql ++ spelledOrder select.order ++
        select.window.spelled := by
    simp [sql_prepare, render, spell_projection, spell_renderOrder, Window.render, Window.spelled,
      spell_renderBound, String.append_assoc]
  exact congrArg₂ Prepared.mk text select.arguments_render

/-- A count as it is given to a database. -/
theorem Select.prepare_countOf (table : TableName) (conditions : List Condition) :
    (Statement.select (countOf table conditions)).prepare =
      ⟨"SELECT COUNT(*) FROM " ++ table ++ (prepare (renderWhere conditions)).sql,
        (prepare (renderWhere conditions)).arguments⟩ := by
  have front : "SELECT " ++ Projection.count.spelled ++ " FROM " = "SELECT COUNT(*) FROM " := rfl
  have order : spelledOrder [] = "" := rfl
  have window : ({} : Window).spelled = "" := rfl
  rw [prepare_eq]
  simp only [countOf, front, order, window, String.append_empty]

/-- A removal as it is given to a database. -/
theorem Delete.prepare_eq (delete : Delete) :
    (Statement.delete delete).prepare =
      ⟨"DELETE FROM " ++ delete.table ++ (prepare (renderWhere delete.conditions)).sql,
        (prepare (renderWhere delete.conditions)).arguments⟩ := by
  have text : (prepare delete.render).sql =
      "DELETE FROM " ++ delete.table ++ (prepare (renderWhere delete.conditions)).sql := by
    simp [sql_prepare, render, String.append_assoc]
  exact congrArg₂ Prepared.mk text delete.arguments_render

/-- An update as it is given to a database. -/
theorem Update.prepare_eq (update : Update) :
    (Statement.update update).prepare =
      ⟨"UPDATE " ++ update.table ++ " SET " ++
        ", ".intercalate (update.assignments.map fun assignment => assignment.1 ++ " = ?") ++
        (prepare (renderWhere update.conditions)).sql,
        update.assignments.map Prod.snd ++
          (prepare (renderWhere update.conditions)).arguments⟩ := by
  have settings (assignment : ColumnName × Scalar) :
      spelledAssignment (fun _ => "?") assignment = assignment.1 ++ " = ?" := String.append_assoc
  have text : (prepare update.render).sql =
      "UPDATE " ++ update.table ++ " SET " ++
        ", ".intercalate (update.assignments.map fun assignment => assignment.1 ++ " = ?") ++
        (prepare (renderWhere update.conditions)).sql := by
    simp [sql_prepare, render, Function.comp_def, settings, String.append_assoc]
  exact congrArg₂ Prepared.mk text update.arguments_render

/-- What stands in front of the clause of a statement. An insertion has no clause. -/
def Statement.front : Statement → Prepared
  | .select statement =>
    ⟨"SELECT " ++ statement.projection.spelled ++ " FROM " ++ statement.source, []⟩
  | .insert statement => (Statement.insert statement).prepare
  | .update statement =>
    ⟨"UPDATE " ++ statement.table ++ " SET " ++
      ", ".intercalate (statement.assignments.map fun assignment => assignment.1 ++ " = ?"),
      statement.assignments.map Prod.snd⟩
  | .delete statement => ⟨"DELETE FROM " ++ statement.table, []⟩

/-- What stands behind the clause of a statement: the order and the window of a selection.
There are no values in it. -/
def Statement.back : Statement → String
  | .select statement => spelledOrder statement.order ++ statement.window.spelled
  | _ => ""

/-- A statement with a text in the place of its clause. -/
def Statement.around (statement : Statement) (clause : Prepared) : Prepared :=
  ⟨statement.front.sql ++ clause.sql ++ statement.back,
    statement.front.arguments ++ clause.arguments⟩

/-- Every statement has its conditions in the place of its clause. -/
theorem Statement.prepare_eq_around (statement : Statement) :
    statement.prepare = statement.around (Sql.prepare (renderWhere statement.conditions)) := by
  cases statement with
  | select select =>
    rw [Select.prepare_eq]
    simp [around, front, back, conditions, String.append_assoc]
  | insert insert =>
    have noClause : Sql.prepare (renderWhere []) = ⟨"", []⟩ := rfl
    simp [around, front, back, conditions, noClause]
  | update update =>
    rw [Update.prepare_eq]
    simp [around, front, back, conditions]
  | delete delete =>
    rw [Delete.prepare_eq]
    simp [around, front, back, conditions]

/-- What stands in the place of the clause is told by the whole statement. -/
theorem Statement.around_injective (statement : Statement) :
    Function.Injective statement.around := by
  intro first second same
  obtain ⟨sameText, sameArguments⟩ := Prepared.mk.inj same
  have letters := congrArg String.toList sameText
  simp only [String.toList_append, List.append_assoc] at letters
  have sameClause := List.append_cancel_right (List.append_cancel_left letters)
  obtain ⟨text, arguments⟩ := first
  obtain rfl : text = second.sql := String.toList_inj.mp sameClause
  obtain rfl : arguments = second.arguments := List.append_cancel_left sameArguments
  rfl

end DomainSql.Sql
