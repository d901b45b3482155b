import DomainSql.Proofs.Arguments
import DomainSql.Proofs.Folding

/-!
# Which columns a statement writes

An insertion and an update write the columns of the first row's keys. A row holds every key
once, but two keys that are spelled alike have one column once their names are folded, and
nothing is checked behind the folding. So the columns are different from each other exactly
when names are not folded or no two keys of the row are spelled alike.
-/
namespace DomainSql

open Sql

/-- The columns that a statement writes, in its order. -/
def Sql.Statement.written : Statement → List ColumnName
  | .insert statement => statement.columns
  | .update statement => statement.assignments.map Prod.fst
  | .select _ | .delete _ => []

/-- No column is written for two keys of a row: names are not folded, or any two keys that
are spelled alike are one. -/
def Row.KeepsApart (naming : Naming) (row : Row) : Prop :=
  naming.foldCase = true → ∀ key ∈ Mapping.keys row, ∀ other ∈ Mapping.keys row,
    Naming.SpelledAlike key.toList other.toList → key = other

/-- The columns of a row's keys are different from each other when no column is written for
two of the keys. -/
theorem Row.nodup_columns_iff {naming : Naming} {row : Row} (unique : Mapping.Unique row) :
    ((Mapping.keys row).map naming.columnName).Nodup ↔ row.KeepsApart naming := by
  rw [List.nodup_map_iff_inj_on unique]
  constructor
  · intro apart folds key listed other listedToo alike
    exact apart key listed other listedToo (Naming.columnName_eq_iff.mpr (.inr ⟨folds, alike⟩))
  · intro apart key listed other listedToo sameColumn
    rcases Naming.columnName_eq_iff.mp sameColumn with same | ⟨folds, alike⟩
    · exact same
    · exact apart folds key listed other listedToo alike

section
variable {metadata : Metadata} {request : Request}

/-- An insert writes the columns of the first row's keys, in their order. -/
theorem columns_of_compileInsert {insert : Insert}
    (compiled : compileInsert metadata request = .ok insert) :
    insert.columns = (Mapping.keys request.firstRow).map metadata.naming.columnName := by
  obtain ⟨first, others, _, _, data, _, _, rfl⟩ := exists_rows_of_compileInsert compiled
  simp [Request.firstRow, Request.givenRows, data]

/-- An update writes the columns of the first row's keys, in their order. -/
theorem columns_of_compileUpdate {update : Update}
    (compiled : (compileUpdate metadata request).outcome = .ok update) :
    update.assignments.map Prod.fst =
      (Mapping.keys request.firstRow).map metadata.naming.columnName := by
  obtain ⟨row, assigns⟩ := exists_assigns compiled
  obtain ⟨others, data⟩ := assigns.data
  rw [compileUpdate_eq_target assigns] at compiled
  obtain ⟨_, _, rfl⟩ := map_eq_ok.mp compiled
  simp [Request.firstRow, Request.givenRows, data, Mapping.keys]

/-- An insertion or an update has one statement, and it writes the columns of the first row's
keys in their order. -/
theorem exists_written {plan : Plan} (compiled : (compile metadata request).outcome = .ok plan)
    (writes : plan.work.operation = .insert ∨ plan.work.operation = .update) :
    ∃ statement, plan.work.statements = [statement] ∧
      statement.written = (Mapping.keys request.firstRow).map metadata.naming.columnName := by
  obtain ⟨_, _, compiledWork⟩ := work_of_compile compiled
  obtain ⟨domain, work⟩ := plan
  cases work with
  | insert insert =>
    obtain ⟨_, compiledInsert, same⟩ := Traced.outcome_bind_eq_ok.mp compiledWork
    cases same
    exact ⟨_, rfl, columns_of_compileInsert compiledInsert⟩
  | update update =>
    obtain ⟨_, compiledUpdate, same⟩ := Traced.outcome_bind_eq_ok.mp compiledWork
    cases same
    exact ⟨_, rfl, columns_of_compileUpdate compiledUpdate⟩
  | query rows count => simp [Work.operation] at writes
  | delete delete => simp [Work.operation] at writes

/-- The first row of a request for an insertion or an update is one of its rows, if the
request compiles. -/
theorem exists_firstRow {plan : Plan} (compiled : (compile metadata request).outcome = .ok plan)
    (writes : plan.work.operation = .insert ∨ plan.work.operation = .update) :
    ∃ others, request.data = some (request.firstRow :: others) := by
  obtain ⟨_, _, compiledWork⟩ := work_of_compile compiled
  have rows : Succeeds request.rows := by
    rcases writes with insertion | update
    · rw [insertion] at compiledWork
      obtain ⟨_, compiledInsert, _⟩ := Traced.outcome_bind_eq_ok.mp compiledWork
      obtain ⟨rows, given, _⟩ := bind_eq_ok.mp compiledInsert
      exact ⟨rows, given⟩
    · rw [update] at compiledWork
      obtain ⟨_, compiledUpdate, _⟩ := Traced.outcome_bind_eq_ok.mp compiledWork
      obtain ⟨rows, given, _⟩ := Traced.outcome_bind_eq_ok.mp compiledUpdate
      exact ⟨rows, given⟩
  obtain ⟨⟨first, others⟩, given⟩ := rows
  have data := rows_eq_ok.mp given
  exact ⟨others, by simp [Request.firstRow, Request.givenRows, data]⟩

end

/-- An insertion or an update that compiles writes the columns of the first row's keys, in
their order. They are different from each other exactly when names are not folded or no two
of the keys are spelled alike.

The hypothesis on the keys is what a mapping is: the rows of a request hold every key once. -/
theorem written_nodup_iff (metadata : Metadata) (request : Request) (plan : Plan)
    (unique : request.UniqueKeys)
    (writes : request.operation = some Operation.insert.name ∨
      request.operation = some Operation.update.name)
    (compiled : (compile metadata request).outcome = .ok plan) :
    ∃ first others statement, request.data = some (first :: others) ∧
      plan.work.statements = [statement] ∧
      statement.written = (Mapping.keys first).map metadata.naming.columnName ∧
      (statement.written.Nodup ↔ Row.KeepsApart metadata.naming first) := by
  obtain ⟨kind, _, _⟩ := work_of_compile compiled
  have writesToo : plan.work.operation = .insert ∨ plan.work.operation = .update := by
    rw [← operationKind_eq_ok, ← operationKind_eq_ok, kind] at writes
    simpa using writes
  obtain ⟨statement, single, written⟩ := exists_written compiled writesToo
  obtain ⟨others, data⟩ := exists_firstRow compiled writesToo
  refine ⟨request.firstRow, others, statement, data, single, written, ?_⟩
  rw [written, Row.nodup_columns_iff (unique _ data _ List.mem_cons_self)]

/-- A user whose keys are told apart by an underscore in front of a capital letter, and by a
letter that is no capital. -/
def renameUser : Request where
  operation := some "update"
  domain := some "user"
  data := some [[("userName", .text "ann"), ("user_Name", .text "bob"), ("username", .null)]]

/-- Three keys that look alike are written to three columns, for none of them is spelled like
another. -/
theorem renamedUser_written_once :
    renameUser.UniqueKeys ∧ ∃ plan statement, (compile {} renameUser).outcome = .ok plan ∧
      plan.work.statements = [statement] ∧
      statement.written = ["user_name", "user__name", "username"] ∧
      Row.KeepsApart {} [("userName", .text "ann"), ("user_Name", .text "bob"),
        ("username", .null)] := by
  have unique : renameUser.UniqueKeys := by
    rintro _ ⟨⟩
    unfold Mapping.Unique
    decide
  obtain ⟨plan, compiled⟩ : Succeeds (compile {} renameUser).outcome := ⟨_, rfl⟩
  obtain ⟨first, others, statement, data, single, written, once⟩ :=
    written_nodup_iff {} renameUser plan unique (.inr rfl) compiled
  cases data
  refine ⟨unique, plan, statement, compiled, single, written.trans (by decide), once.mp ?_⟩
  rw [written]
  decide

/-- A user with one name under two keys. -/
def insertTwofoldUser : Request where
  operation := some "insert"
  domain := some "user"
  data := some [[("userName", .text "ann"), ("user_name", .text "bob")]]

/-- A request may compile to a statement that writes a column twice. -/
theorem twofoldUser_written_twice :
    ¬ ∀ (metadata : Metadata) (request : Request) (plan : Plan), request.UniqueKeys →
      (request.operation = some Operation.insert.name ∨
        request.operation = some Operation.update.name) →
      (compile metadata request).outcome = .ok plan →
      ∀ statement ∈ plan.work.statements, statement.written.Nodup := by
  intro once
  have unique : insertTwofoldUser.UniqueKeys := by
    rintro _ ⟨⟩
    unfold Mapping.Unique
    decide
  have written := once {} insertTwofoldUser _ unique (.inl rfl) rfl _ List.mem_cons_self
  revert written
  decide

end DomainSql
