import DomainSql.Proofs.Acceptance
import DomainSql.Proofs.Clauses
import DomainSql.Proofs.Effects

/-!
# A query previews what an update or a removal does

What a request is about is told by its domain, its filters and its route, and the
four kinds of statements with conditions read it independently of each other. They
read it alike: from requests that are about the same they make statements with the
same conditions on the same table, or none at all.

So a count may be taken for the number of rows that a removal takes away, and the rows
of a query for those that an update assigns to, whatever else the requests hold.
-/
namespace DomainSql

open Sql

/-- What a request is about, whatever it does with it. -/
structure Target where
  domain : Option String
  filters : Option Mapping
  domainRoute : Option DomainRoute

/-- The target of a request. -/
def Request.target (request : Request) : Target :=
  ⟨request.domain, request.filters, request.domainRoute⟩

/-- The domain of a target and the conditions on its rows. -/
def Target.compile (naming : Naming) (target : Target) :
    Except CompileError (String × List Condition) := do
  let request : Request := { domain := target.domain }
  let domain ← request.domainName
  let conditions ← (compileWhere naming target.filters target.domainRoute).outcome
  return (domain, conditions)

/-- A request has data for an update: the fields of its first row are plain and have
these values. -/
structure Request.Assigns (request : Request) (row : List (String × Scalar)) : Prop where
  notEmpty : row ≠ []
  plain : ∀ field ∈ row, isIdentifier field.1 = true
  data : ∃ others, request.data = some (row.map (fun field => (field.1, .scalar field.2)) :: others)

section
variable (metadata : Metadata) (request : Request)

/-- What is made of the domain and the conditions of a request is made of its target. -/
theorem bind_target (build : String → List Condition → β) :
    (request.domainName >>= fun domain =>
      (request.conditions metadata.naming).outcome >>= fun conditions =>
      Except.ok (build domain conditions)) =
    (request.target.compile metadata.naming).map fun found => build found.1 found.2 := by
  have sameDomain : ({ domain := request.target.domain } : Request).domainName =
      request.domainName := rfl
  have sameConditions : (compileWhere metadata.naming request.target.filters
      request.target.domainRoute).outcome = (request.conditions metadata.naming).outcome := rfl
  rw [Target.compile, sameDomain, sameConditions]
  cases request.domainName with
  | error reason => rfl
  | ok domain => cases (request.conditions metadata.naming).outcome <;> rfl

/-- A count and a removal are made of the target of a request alone. -/
theorem compileAbout_eq_target (build : TableName → List Condition → β) :
    (compileAbout build metadata request).outcome =
      (request.target.compile metadata.naming).map fun found =>
        build (metadata.naming.tableName found.1) found.2 := by
  rw [← bind_target metadata request fun domain conditions =>
    build (metadata.naming.tableName domain) conditions]
  simp only [compileAbout, Traced.outcome_bind, Traced.outcome_liftM, Traced.outcome_pure]

variable {metadata request}

/-- The fields of a row become its assignments. -/
theorem mapM_compileAssignment {row : List (String × Scalar)}
    (plain : ∀ field ∈ row, isIdentifier field.1 = true) :
    (row.map fun field => (field.1, Value.scalar field.2)).mapM
        (compileAssignment metadata.naming) =
      .ok (row.map fun field => (metadata.naming.columnName field.1, field.2)) := by
  rw [mapM_eq_ok, List.forall₂_map_left_iff, List.forall₂_map_right_iff, List.forall₂_same]
  intro field listed
  rw [compileAssignment, bind_eq_ok]
  exact ⟨(), checkIdentifier_eq_ok.mpr (plain field listed), rfl⟩

/-- An update of one row is made of the target of a request and the assignments of the row. -/
theorem compileUpdate_eq_target {row : List (String × Scalar)} (assigns : request.Assigns row) :
    (compileUpdate metadata request).outcome =
      (request.target.compile metadata.naming).map fun found =>
        Update.mk (metadata.naming.tableName found.1)
          (row.map fun field => (metadata.naming.columnName field.1, field.2)) found.2 := by
  obtain ⟨others, data⟩ := assigns.data
  have someField : ¬ (row.map fun field => (field.1, Value.scalar field.2)).isEmpty = true := by
    simpa using assigns.notEmpty
  rw [← bind_target metadata request fun domain conditions =>
    Update.mk (metadata.naming.tableName domain)
      (row.map fun field => (metadata.naming.columnName field.1, field.2)) conditions]
  unfold compileUpdate
  rw [Traced.outcome_bind, Traced.outcome_liftM, rows_eq_ok.mpr data, ok_bind]
  simp only [if_neg someField, Traced.outcome_bind, Traced.outcome_tell, Traced.outcome_liftM,
    Traced.outcome_lift, Traced.outcome_pure, mapM_compileAssignment assigns.plain, ok_bind]

/-- An update needs data. -/
theorem exists_assigns {update : Update}
    (compiled : (compileUpdate metadata request).outcome = .ok update) :
    ∃ row, request.Assigns row := by
  obtain ⟨_, ⟨first, others, data, notEmpty, fields⟩, _⟩ :=
    succeeds_compileUpdate.mp ⟨update, compiled⟩
  have image : first ∈ Set.range (List.map fun field : String × Scalar =>
      (field.1, Value.scalar field.2)) := by
    rw [Set.range_list_map]
    rintro ⟨key, value⟩ listed
    obtain ⟨_, scalar, rfl⟩ := fields _ listed
    exact ⟨(key, scalar), rfl⟩
  obtain ⟨row, rfl⟩ := image
  refine ⟨row, by simpa using notEmpty, ?_, others, data⟩
  intro field listed
  exact (fields _ (List.mem_map_of_mem listed)).1

/-- A selection has the conditions of its target, and without a page no window. -/
theorem compileSelect_of_target {select : Select}
    (compiled : (compileSelect metadata request).outcome = .ok select) :
    ∃ domain conditions,
      request.target.compile metadata.naming = .ok (domain, conditions) ∧
      select.source = metadata.naming.tableName domain ∧ select.conditions = conditions ∧
      (request.page = none → select.window = {}) := by
  simp only [compileSelect, Traced.outcome_bind_eq_ok, Traced.outcome_liftM] at compiled
  obtain ⟨domain, given, projection, _, conditions, compiledWhere, paged⟩ := compiled
  have found : request.target.compile metadata.naming = .ok (domain, conditions) := by
    rw [Target.compile, bind_eq_ok]
    exact ⟨domain, given, bind_eq_ok.mpr ⟨conditions, compiledWhere, rfl⟩⟩
  refine ⟨domain, conditions, found, ?_⟩
  split at paged
  · simp only [Traced.outcome_pure, Except.ok.injEq] at paged
    subst paged
    exact ⟨rfl, rfl, fun _ => rfl⟩
  · rename_i page present
    simp only [Traced.outcome_bind_eq_ok, Traced.outcome_liftM, Traced.outcome_pure,
      Except.ok.injEq] at paged
    obtain ⟨order, _, window, _, rfl⟩ := paged
    exact ⟨rfl, rfl, fun absent => by simp [absent] at present⟩

/-- The domain of a target is the one it names. -/
theorem domain_of_compile {naming : Naming} {target : Target} {domain : String}
    {conditions : List Condition}
    (compiled : target.compile naming = .ok (domain, conditions)) :
    target.domain = some domain := by
  simp only [Target.compile, bind_eq_ok, pure_eq_ok, Prod.mk.injEq] at compiled
  obtain ⟨_, given, _, _, rfl, _⟩ := compiled
  unfold Request.domainName at given
  split at given
  · cases given
  · cases given
  · rename_i named
    simp only [bind_eq_ok, pure_eq_ok] at given
    obtain ⟨_, _, rfl⟩ := given
    exact named

end

/-- Nothing can be compiled about a target. The count, the removal and the update fail
for one reason, whatever else is asked for; a query fails too, but it may be for a
reason of its own. -/
structure Refused (metadata : Metadata) (target : Target) (error : CompileError) : Prop where
  count : ∀ request : Request, request.target = target →
    (compileCount metadata request).outcome = .error error
  delete : ∀ request : Request, request.target = target →
    (compileDelete metadata request).outcome = .error error
  update : ∀ (request : Request) row, request.target = target → request.Assigns row →
    (compileUpdate metadata request).outcome = .error error
  select : ∀ request : Request, request.target = target →
    ¬ Succeeds (compileSelect metadata request).outcome

/-- All statements about a target are about the same rows of its table. -/
structure ActOn (metadata : Metadata) (target : Target) (table : TableName)
    (database : Database) (found : List Tuple) : Prop where
  /-- The total is their number. -/
  total : ∀ (request : Request) count, request.target = target →
    (compileCount metadata request).outcome = .ok count →
    count.total database = found.length
  /-- A removal takes them away and leaves all other rows. -/
  removed : ∀ (request : Request) delete, request.target = target →
    (compileDelete metadata request).outcome = .ok delete →
    (found ++ (delete.run database).rows table).Perm (database.rows table) ∧
      ∀ other, other ≠ table → (delete.run database).rows other = database.rows other
  /-- An update assigns to them and leaves all other rows. -/
  assigned : ∀ (request : Request) update, request.target = target →
    (compileUpdate metadata request).outcome = .ok update →
    ∃ spared, (found ++ spared).Perm (database.rows table) ∧
      ((update.run database).rows table).Perm (found.map update.assign ++ spared) ∧
      ∀ other, other ≠ table → (update.run database).rows other = database.rows other
  /-- A query gives some of them, as many as its page allows, and all of them without a
  page. -/
  given : ∀ (request : Request) select, request.target = target →
    (compileSelect metadata request).outcome = .ok select →
    (∃ rows, select.Gives database rows) ∧
    ∀ rows, select.Gives database rows →
      rows.Subperm found ∧ rows.length = select.window.size found.length ∧
        (request.page = none → rows.Perm found)

/-- The statements about a target share its table and the clause of its conditions, and
are about the same rows of every database. -/
structure Previewed (metadata : Metadata) (target : Target) (table : TableName)
    (clause : Prepared) : Prop where
  named : ∃ domain, target.domain = some domain ∧ table = metadata.naming.tableName domain
  opened : clause.sql = "" ∨ ∃ conditions, clause.sql = " WHERE " ++ conditions
  /-- The count is one for all requests, whatever their page, sort and columns. -/
  count : ∃ count : Select, (Statement.select count).prepare =
      ⟨"SELECT COUNT(*) FROM " ++ table ++ clause.sql, clause.arguments⟩ ∧
    ∀ request : Request, request.target = target →
      (compileCount metadata request).outcome = .ok count
  delete : ∃ delete : Delete, (Statement.delete delete).prepare =
      ⟨"DELETE FROM " ++ table ++ clause.sql, clause.arguments⟩ ∧
    ∀ request : Request, request.target = target →
      (compileDelete metadata request).outcome = .ok delete
  update : ∀ row, ∃ update : Update, (Statement.update update).prepare =
      ⟨"UPDATE " ++ table ++ " SET " ++
        ", ".intercalate (row.map fun field => metadata.naming.columnName field.1 ++ " = ?") ++
        clause.sql, row.map Prod.snd ++ clause.arguments⟩ ∧
    ∀ request : Request, request.target = target → request.Assigns row →
      (compileUpdate metadata request).outcome = .ok update
  /-- A query has nothing but its order and its window behind the clause. -/
  select : ∀ (request : Request) select, request.target = target →
    (compileSelect metadata request).outcome = .ok select →
    (Statement.select select).prepare =
      ⟨"SELECT " ++ select.projection.spelled ++ " FROM " ++ table ++ clause.sql ++
        spelledOrder select.order ++ select.window.spelled, clause.arguments⟩
  act : ∀ database, ∃ found, ActOn metadata target table database found

section
variable {metadata : Metadata} {target : Target}

/-- Where the target fails, everything that is about it fails for the same reason. -/
theorem Refused.of_error {error : CompileError}
    (failed : target.compile metadata.naming = .error error) :
    Refused metadata target error where
  count := by
    rintro request rfl
    rw [compileCount, compileAbout_eq_target, failed]
    rfl
  delete := by
    rintro request rfl
    rw [compileDelete, compileAbout_eq_target, failed]
    rfl
  update := by
    rintro request row rfl assigns
    rw [compileUpdate_eq_target assigns, failed]
    rfl
  select := by
    rintro request rfl ⟨select, compiled⟩
    obtain ⟨_, _, found, _⟩ := compileSelect_of_target compiled
    rw [failed] at found
    cases found

variable {domain : String} {conditions : List Condition}
variable (compiled : target.compile metadata.naming = .ok (domain, conditions))
include compiled

/-- The rows that all statements about a target are about are those that its conditions
find. -/
theorem ActOn.of_ok (database : Database) :
    ActOn metadata target (metadata.naming.tableName domain) database
      (database.found (metadata.naming.tableName domain) conditions) where
  total := by
    rintro request count rfl counted
    rw [compileCount, compileAbout_eq_target, compiled] at counted
    have same := Except.ok.inj counted
    subst same
    rfl
  removed := by
    rintro request delete rfl removed
    rw [compileDelete, compileAbout_eq_target, compiled] at removed
    have same : Delete.mk (metadata.naming.tableName domain) conditions = delete :=
      Except.ok.inj removed
    subst same
    exact ⟨Delete.rows_run ⟨metadata.naming.tableName domain, conditions⟩ database,
      fun _ different => Delete.rows_run_of_ne _ database different⟩
  assigned := by
    rintro request update rfl updated
    obtain ⟨row, assigns⟩ := exists_assigns updated
    rw [compileUpdate_eq_target assigns, compiled] at updated
    have same : Update.mk (metadata.naming.tableName domain)
        (row.map fun field => (metadata.naming.columnName field.1, field.2)) conditions = update :=
      Except.ok.inj updated
    subst same
    exact ⟨database.spared (metadata.naming.tableName domain) conditions,
      database.found_append_spared .., Update.rows_run _ database,
      fun _ different => Update.rows_run_of_ne _ database different⟩
  given := by
    rintro request select rfl selected
    obtain ⟨_, _, found, source, same, unpaged⟩ := compileSelect_of_target selected
    cases compiled.symm.trans found
    rw [← source, ← same]
    refine ⟨select.exists_gives database, fun rows gives => ?_⟩
    obtain ⟨inside, length⟩ := gives.part
    exact ⟨inside, length, fun absent => gives.all (unpaged absent)⟩

/-- Where the target compiles, its table and its conditions are what every statement about it has in
common. -/
theorem Previewed.of_ok :
    Previewed metadata target (metadata.naming.tableName domain)
      (prepare (renderWhere conditions)) where
  named := ⟨domain, domain_of_compile compiled, rfl⟩
  opened := by
    cases conditions with
    | nil => exact Or.inl rfl
    | cons first rest => exact Or.inr ⟨_, sql_prepare_append [.text " WHERE "] _⟩
  count := by
    refine ⟨_, Select.prepare_countOf _ conditions, ?_⟩
    rintro request rfl
    rw [compileCount, compileAbout_eq_target, compiled]
    rfl
  delete := by
    refine ⟨⟨metadata.naming.tableName domain, conditions⟩, Delete.prepare_eq _, ?_⟩
    rintro request rfl
    rw [compileDelete, compileAbout_eq_target, compiled]
    rfl
  update row := by
    refine ⟨⟨metadata.naming.tableName domain,
      row.map fun field => (metadata.naming.columnName field.1, field.2), conditions⟩, ?_, ?_⟩
    · rw [Update.prepare_eq, List.map_map, List.map_map]
      rfl
    · rintro request rfl assigns
      rw [compileUpdate_eq_target assigns, compiled]
      rfl
  select := by
    rintro request select rfl selected
    obtain ⟨_, _, found, source, same, _⟩ := compileSelect_of_target selected
    cases compiled.symm.trans found
    rw [← source, ← same]
    exact select.prepare_eq
  act database := ⟨_, ActOn.of_ok compiled database⟩

end

/-- What a query previews is what an update or a removal hits. For everything that a
request may be about, either no statement about it can be compiled, or the count, the
removal, the update and every query have the same clause with the same arguments, and
are about the same rows of every database. -/
theorem refused_or_previewed (metadata : Metadata) (target : Target) :
    (∃ error, Refused metadata target error) ∨
      ∃ table clause, Previewed metadata target table clause := by
  cases compiled : target.compile metadata.naming with
  | error reason => exact Or.inl ⟨reason, Refused.of_error compiled⟩
  | ok found => exact Or.inr ⟨_, _, Previewed.of_ok compiled⟩

end DomainSql
