import DomainSql.Proofs.ClauseText
import DomainSql.Proofs.EntryMeaning
import DomainSql.Proofs.Preview
import DomainSql.Proofs.Refusals

/-!
# What the clause of a request keeps

The text of a compiled statement is read back, and not the term that it was rendered from:
SQL reads one clause in it, and the clause keeps exactly the rows of which the route's
condition is true and of which every filter entry holds. There is no clause exactly where
there is neither a route nor an entry.

Since all entries have to hold, and one of the alternatives of a group, their order makes
no difference, and one more entry can only take rows away.
-/
namespace DomainSql

open Sql

namespace Sql

/-- The table that a statement is about. -/
def Statement.table : Statement → TableName
  | .select statement => statement.source
  | .insert statement => statement.table
  | .update statement => statement.table
  | .delete statement => statement.table

section
variable (statement : Statement)

/-- The tokens of the clause of a statement. -/
def Statement.clauseTokens : List Token := Sql.clauseTokens statement.conditions

/-- What SQL reads in the place of a statement's clause: it has the tokens of the clause,
which are the text of the statement there, and its arguments. -/
structure Statement.Reads (clause : Clause) : Prop where
  tokens : clause.tokens = statement.clauseTokens
  text : statement.prepare = statement.around (written clause.tokens)

/-- A statement finds the rows of its table that its clause keeps. -/
def Statement.Finds (database : Database) (tuple : Tuple) : Prop :=
  tuple ∈ database.rows statement.table ∧
    ∃ clause : Clause, statement.Reads clause ∧ clause.Keeps database tuple

end

end Sql

/-- What a request asks of a row: the condition of its route is true of it, if it has a
route, and every entry of its filters holds. -/
structure Request.Asks (naming : Naming) (request : Request) (database : Database)
    (tuple : Tuple) : Prop where
  route : ∀ route ∈ request.domainRoute, ∃ condition,
    (route.compile naming).outcome = .ok condition ∧ condition.Holds database tuple
  filters : ∀ entry ∈ request.filters.getD [], EntryHolds naming database tuple entry

/-- A clause answers what a request asks. -/
structure Answers (naming : Naming) (request : Request) (statement : Statement)
    (clause : Clause) : Prop where
  table : ∃ domain, request.domain = some domain ∧ statement.table = naming.tableName domain
  reads : statement.Reads clause
  /-- The tokens are those of no other clause. -/
  only : ∀ other, statement.Reads other → other = clause
  /-- Where names are plain, the text and its arguments are those of no other clause. -/
  told : naming.Plain → ∀ other : Clause,
    (∀ letters, Token.name letters ∈ other.tokens → isIdentifier letters = true) →
    statement.prepare = statement.around (written other.tokens) → other = clause
  absent : clause = none ↔ request.domainRoute = none ∧ request.filters.getD [] = []
  keeps : ∀ database tuple,
    clause.Keeps database tuple ↔ request.Asks naming database tuple

/-- The same request with other filters. -/
def Request.withFilters (request : Request) (filters : Mapping) : Request :=
  { request with filters := some filters }

/-- An entry in place of another one: the same entry, or a mapping with its entries in
another order. -/
inductive EntryReordered : String × Value → String × Value → Prop
  | same (entry : String × Value) : EntryReordered entry entry
  | group (key : String) (alternatives others : Mapping) : alternatives.Perm others →
    EntryReordered (key, .mapping alternatives) (key, .mapping others)

/-- The same filters in another order, with the entries of groups in another order too. -/
def Reordered (filters others : Mapping) : Prop :=
  ∃ between, List.Forall₂ EntryReordered filters between ∧ between.Perm others

section
variable {metadata : Metadata} {request : Request} {naming : Naming}
variable {conditions : List Condition}

/-- The conditions of a request are that of its route, if it has one, and those of its
filter entries. -/
theorem conditions_split (compiled : (request.conditions naming).outcome = .ok conditions) :
    ∃ routed filtered, routed ++ filtered = conditions ∧
      List.Forall₂ (fun route condition => (route.compile naming).outcome = .ok condition)
        request.domainRoute.toList routed ∧
      compileFilters naming (request.filters.getD []) = .ok filtered := by
  simp only [Request.conditions, compileWhere, Traced.outcome_bind_eq_ok, Traced.outcome_lift,
    Traced.outcome_pure, Except.ok.injEq] at compiled
  obtain ⟨routed, compiledRoute, filtered, compiledFilters, rfl⟩ := compiled
  refine ⟨routed, filtered, rfl, ?_, compiledFilters⟩
  generalize request.domainRoute = given at compiledRoute ⊢
  cases given with
  | none =>
    obtain rfl : routed = [] := by simpa using compiledRoute.symm
    exact List.Forall₂.nil
  | some route =>
    simp only [Option.toList, List.mapM_cons, List.mapM_nil, Traced.outcome_bind_eq_ok,
      Traced.outcome_pure, Except.ok.injEq] at compiledRoute
    obtain ⟨condition, compiledHere, _, rfl, rfl⟩ := compiledRoute
    exact List.Forall₂.cons compiledHere List.Forall₂.nil

/-- All conditions of a request hold of the rows that it asks for. -/
theorem conditions_hold (compiled : (request.conditions naming).outcome = .ok conditions)
    {database : Database} {tuple : Tuple} :
    (∀ condition ∈ conditions, condition.Holds database tuple) ↔
      request.Asks naming database tuple := by
  obtain ⟨routed, filtered, rfl, routes, compiledFilters⟩ := conditions_split compiled
  have ofRoute := forall_result_iff (routes.imp fun route condition compiledHere =>
    show condition.Holds database tuple ↔ ∃ condition,
        (route.compile naming).outcome = .ok condition ∧ condition.Holds database tuple by
      simp [compiledHere])
  rw [List.forall_mem_append, ofRoute, holds_compileFilters compiledFilters]
  constructor
  · rintro ⟨route, filters⟩
    exact ⟨fun given present => route given (Option.mem_toList.mpr present), filters⟩
  · intro asks
    exact ⟨fun given present => asks.route given (Option.mem_toList.mp present), asks.filters⟩

/-- Without a route and without entries there are no conditions, and only then. -/
theorem conditions_eq_nil_iff (compiled : (request.conditions naming).outcome = .ok conditions) :
    conditions = [] ↔ request.domainRoute = none ∧ request.filters.getD [] = [] := by
  obtain ⟨routed, filtered, rfl, routes, compiledFilters⟩ := conditions_split compiled
  have noEntry : filtered = [] ↔ request.filters.getD [] = [] := by
    rw [← List.length_eq_zero_iff, ← (mapM_eq_ok.mp compiledFilters).length_eq,
      List.length_eq_zero_iff]
  have noRoute : routed = [] ↔ request.domainRoute = none := by
    rw [← List.length_eq_zero_iff, ← routes.length_eq, List.length_eq_zero_iff,
      Option.toList_eq_nil_iff]
  rw [List.append_eq_nil_iff, noRoute, noEntry]

/-- The conditions of a request are read as a clause that answers it, in every statement
with these conditions. -/
theorem exists_answers (compiled : (request.conditions naming).outcome = .ok conditions)
    {statement : Statement}
    (table : ∃ domain, request.domain = some domain ∧ statement.table = naming.tableName domain)
    (same : statement.conditions = conditions) :
    ∃ clause, Answers naming request statement clause := by
  subst same
  -- the names are plain if those of the naming are
  have gives : naming.Gives fun name => naming.Plain → isIdentifier name = true :=
    ⟨fun name plain _ => plain, fun domain plain named => named.gives.table domain plain,
      fun left right leftPlain rightPlain named =>
        named.gives.joinTable left right leftPlain rightPlain,
      fun domain plain named => named.gives.joinId domain plain,
      fun named => named.gives.idColumn⟩
  obtain ⟨clause, tokens, wording, keeps⟩ := exists_clause (compileWhere_sound gives compiled)
  have text : statement.prepare = statement.around (written clause.tokens) := by
    rw [statement.prepare_eq_around, tokens, wording.written]
  have reads : statement.Reads clause := ⟨tokens, text⟩
  refine ⟨clause, table, reads, ?_, ?_, ?_, fun database tuple => (keeps database tuple).trans
    (conditions_hold compiled)⟩
  · intro other readsToo
    exact Clause.tokens_injective (readsToo.tokens.trans tokens.symm)
  · intro named other othersPlain alsoText
    refine Clause.eq_of_written othersPlain ?_ (statement.around_injective
      (alsoText.symm.trans text))
    intro letters listed
    exact wording.named letters (tokens ▸ listed) named
  · rw [← conditions_eq_nil_iff compiled, ← clauseTokens_eq_nil_iff, ← tokens]
    cases clause with
    | none => exact iff_of_true rfl rfl
    | some disjunction => exact iff_of_false (by simp) (by simp [Clause.tokens])

end

section
variable {filters others : Mapping}

/-- A property of entries that reordering does not change holds of all entries in any order
or in none. -/
theorem Reordered.forall_iff {property : String × Value → Prop}
    (reordered : Reordered filters others)
    (kept : ∀ entry other, EntryReordered entry other → (property other ↔ property entry)) :
    (∀ entry ∈ others, property entry) ↔ ∀ entry ∈ filters, property entry := by
  obtain ⟨between, entries, permuted⟩ := reordered
  rw [← forall_result_iff (entries.imp kept)]
  exact forall_congr' fun entry => by rw [permuted.mem_iff]

/-- Only null tests take a mapping as their value, and they do not read it. -/
theorem Operator.takes_mapping_iff {operator : Operator} {entries : Mapping} :
    operator.Takes (.mapping entries) ↔ operator = .null ∨ operator = .notNull := by
  cases operator <;> simp [Operator.Takes]

/-- With a mapping as its value only a null test can hold, and it holds as with any other value. -/
theorem Operator.relates_mapping_iff {operator : Operator} {database : Database} {cell : Scalar}
    {entries : Mapping} :
    operator.Relates database cell (.mapping entries) ↔
      operator = .null ∧ cell = .null ∨ operator = .notNull ∧ cell ≠ .null := by
  cases operator <;> simp [Operator.Relates, Database.Compares, Database.Searches]

/-- The order of alternatives makes no difference to whether they are well-formed. -/
theorem WellFormedFilter.reordered {entry other : String × Value}
    (reordered : EntryReordered entry other) : WellFormedFilter other ↔ WellFormedFilter entry := by
  cases reordered with
  | same => exact Iff.rfl
  | group key alternatives others permuted =>
    unfold WellFormedFilter
    split
    · have noneOfBoth : others = [] ↔ alternatives = [] := by
        rw [← List.length_eq_zero_iff, ← permuted.length_eq, List.length_eq_zero_iff]
      simp [permuted.mem_iff, noneOfBoth]
    · simp only [WellFormedCondition, Operator.takes_mapping_iff]

/-- The order of alternatives makes no difference to whether one of them holds. -/
theorem EntryHolds.reordered {naming : Naming} {database : Database} {tuple : Tuple}
    {entry other : String × Value} (reordered : EntryReordered entry other) :
    EntryHolds naming database tuple other ↔ EntryHolds naming database tuple entry := by
  cases reordered with
  | same => exact Iff.rfl
  | group key alternatives others permuted =>
    unfold EntryHolds
    split
    · simp [permuted.mem_iff]
    · simp only [ConditionHolds, Operator.relates_mapping_iff]

end

section
variable {metadata : Metadata} {request : Request} {plan : Plan}

/-- Work other than an insertion is made of statements about the target of its request. -/
theorem target_of_compileWork {work : Work}
    (compiled : (compileWork metadata request work.operation).outcome = .ok work)
    (noInsertion : work.operation ≠ .insert) :
    ∃ domain conditions, request.target.compile metadata.naming = .ok (domain, conditions) ∧
      ∀ statement ∈ work.statements,
        statement.table = metadata.naming.tableName domain ∧ statement.conditions = conditions := by
  cases work with
  | insert _ => exact absurd rfl noInsertion
  | query rows count =>
    simp only [Work.operation, compileWork, Traced.outcome_bind_eq_ok, Traced.outcome_pure,
      Except.ok.injEq, Work.query.injEq] at compiled
    obtain ⟨_, compiledRows, _, compiledCount, rfl, rfl⟩ := compiled
    obtain ⟨domain, conditions, found, source, same, _⟩ := compileSelect_of_target compiledRows
    rw [compileCount, compileAbout_eq_target, found] at compiledCount
    cases compiledCount
    exact ⟨domain, conditions, found, List.forall_mem_cons.mpr
      ⟨⟨source, same⟩, List.forall_mem_singleton.mpr ⟨rfl, rfl⟩⟩⟩
  | update update =>
    simp only [Work.operation, compileWork, Traced.outcome_bind_eq_ok, Traced.outcome_pure,
      Except.ok.injEq, Work.update.injEq] at compiled
    obtain ⟨_, compiledUpdate, rfl⟩ := compiled
    obtain ⟨row, assigns⟩ := exists_assigns compiledUpdate
    rw [compileUpdate_eq_target assigns] at compiledUpdate
    obtain ⟨⟨domain, conditions⟩, found, rfl⟩ := map_eq_ok.mp compiledUpdate
    exact ⟨domain, conditions, found, List.forall_mem_singleton.mpr ⟨rfl, rfl⟩⟩
  | delete delete =>
    simp only [Work.operation, compileWork, Traced.outcome_bind_eq_ok, Traced.outcome_pure,
      Except.ok.injEq, Work.delete.injEq] at compiled
    obtain ⟨_, compiledDelete, rfl⟩ := compiled
    rw [compileDelete, compileAbout_eq_target] at compiledDelete
    obtain ⟨⟨domain, conditions⟩, found, rfl⟩ := map_eq_ok.mp compiledDelete
    exact ⟨domain, conditions, found, List.forall_mem_singleton.mpr ⟨rfl, rfl⟩⟩

/-- The work of a request can be done with other filters too, if they are well-formed. -/
theorem succeeds_compileWork_withFilters {operation : Operation} {filters : Mapping}
    (noInsertion : operation ≠ .insert)
    (succeeds : Succeeds (compileWork metadata request operation).outcome)
    (wellFormed : WellFormedFilters filters) :
    Succeeds (compileWork metadata (request.withFilters filters) operation).outcome := by
  have sameRoute (conditions : request.WellFormedConditions) :
      (request.withFilters filters).WellFormedConditions :=
    ⟨conditions.route, by rintro _ ⟨⟩; exact wellFormed⟩
  rw [succeeds_compileWork_of_ne_insert noInsertion] at succeeds ⊢
  obtain ⟨domain, asked⟩ := succeeds
  refine ⟨domain, ?_⟩
  cases operation with
  | insert => exact absurd rfl noInsertion
  | query => exact ⟨asked.columns, sameRoute asked.conditions, asked.page⟩
  | update => exact ⟨asked.data, sameRoute asked.conditions⟩
  | delete => exact sameRoute asked

/-- A request is compiled with other filters too, if they are well-formed. -/
theorem succeeds_compile_withFilters (compiled : (compile metadata request).outcome = .ok plan)
    (noInsertion : plan.work.operation ≠ .insert) {filters : Mapping}
    (wellFormed : WellFormedFilters filters) :
    Succeeds (compile metadata (request.withFilters filters)).outcome := by
  obtain ⟨kind, named, compiledWork⟩ := work_of_compile compiled
  have sameKind : (request.withFilters filters).operationKind = .ok plan.work.operation := kind
  have sameName : (request.withFilters filters).domainName = .ok plan.domain := named
  rw [compile_eq_work sameKind, sameName, ok_bind, succeeds_bind_pure]
  exact succeeds_compileWork_withFilters noInsertion ⟨_, compiledWork⟩ wellFormed

/-- The statements of a compiled request that inserts nothing are about the table of its
domain and have its conditions. -/
theorem conditions_of_compile (compiled : (compile metadata request).outcome = .ok plan)
    (noInsertion : plan.work.operation ≠ .insert) :
    ∃ conditions, (request.conditions metadata.naming).outcome = .ok conditions ∧
      ∀ statement ∈ plan.work.statements, statement.conditions = conditions ∧
        ∃ domain, request.domain = some domain ∧
          statement.table = metadata.naming.tableName domain := by
  obtain ⟨_, _, compiledWork⟩ := work_of_compile compiled
  obtain ⟨domain, conditions, found, shape⟩ := target_of_compileWork compiledWork noInsertion
  have named : request.domain = some domain := domain_of_compile found
  obtain ⟨_, _, rest⟩ := bind_eq_ok.mp found
  obtain ⟨_, compiledWhere, together⟩ := bind_pure_eq_ok.mp rest
  obtain ⟨_, rfl⟩ := Prod.mk.inj together
  refine ⟨_, compiledWhere, fun statement listed => ?_⟩
  obtain ⟨table, same⟩ := shape statement listed
  exact ⟨same, domain, named, table⟩

/-- A statement of a compiled request that inserts nothing has a clause that answers the
request. -/
theorem exists_answers_of_compile (compiled : (compile metadata request).outcome = .ok plan)
    (noInsertion : plan.work.operation ≠ .insert) {statement : Statement}
    (listed : statement ∈ plan.work.statements) :
    ∃ clause, Answers metadata.naming request statement clause := by
  obtain ⟨_, compiledWhere, shape⟩ := conditions_of_compile compiled noInsertion
  obtain ⟨same, table⟩ := shape statement listed
  exact exists_answers compiledWhere table same

/-- The filters of a compiled request that inserts nothing are well-formed. -/
theorem wellFormed_of_compile (compiled : (compile metadata request).outcome = .ok plan)
    (noInsertion : plan.work.operation ≠ .insert) :
    WellFormedFilters (request.filters.getD []) := by
  obtain ⟨_, compiledWhere, _⟩ := conditions_of_compile compiled noInsertion
  obtain ⟨_, _, _, _, compiledFilters⟩ := conditions_split compiledWhere
  exact succeeds_compileFilters.mp ⟨_, compiledFilters⟩

end

section
variable {naming : Naming} {request : Request} {filters : Mapping}
variable {statement statement' : Statement} {clause clause' : Clause}

/-- A statement with a clause that answers the request finds the stored rows that the request asks
for. -/
theorem Answers.finds_iff (answers : Answers naming request statement clause)
    {database : Database} {tuple : Tuple} :
    statement.Finds database tuple ↔
      tuple ∈ database.rows statement.table ∧ request.Asks naming database tuple := by
  rw [← answers.keeps]
  constructor
  · rintro ⟨stored, other, reads, keeps⟩
    exact ⟨stored, answers.only other reads ▸ keeps⟩
  · rintro ⟨stored, keeps⟩
    exact ⟨stored, clause, answers.reads, keeps⟩

/-- Filters make no difference to the table of a statement. -/
theorem Answers.table_eq (answers : Answers naming request statement clause)
    (answers' : Answers naming (request.withFilters filters) statement' clause') :
    statement'.table = statement.table := by
  obtain ⟨domain, named, table⟩ := answers.table
  obtain ⟨domain', named', table'⟩ := answers'.table
  obtain rfl : domain = domain' := Option.some.inj (named.symm.trans named')
  rw [table, table']

end

/-- Requests with the same filters in another order ask for the same rows. -/
theorem Reordered.asks_iff {naming : Naming} {request : Request} {others : Mapping}
    (reordered : Reordered (request.filters.getD []) others) {database : Database}
    {tuple : Tuple} :
    (request.withFilters others).Asks naming database tuple ↔
      request.Asks naming database tuple := by
  have entries := reordered.forall_iff fun _ _ =>
    @EntryHolds.reordered naming database tuple _ _
  constructor
  · intro asks
    exact ⟨asks.route, entries.mp asks.filters⟩
  · intro asks
    exact ⟨asks.route, entries.mpr asks.filters⟩

/-- The text of every statement that a request is compiled into has one clause, and the
clause keeps the rows of which the route's condition is true and of which every filter
entry holds. So a request with the same filters in another order is compiled too and finds
the same rows, and one with more filters finds no others. -/
theorem statements_answer {metadata : Metadata} {request : Request} {plan : Plan}
    (compiled : (compile metadata request).outcome = .ok plan)
    (noInsertion : plan.work.operation ≠ .insert) :
    (∀ statement ∈ plan.work.statements, ∃ clause,
      Answers metadata.naming request statement clause) ∧
    (∀ others, Reordered (request.filters.getD []) others →
      ∃ other, (compile metadata (request.withFilters others)).outcome = .ok other ∧
        other.work.operation = plan.work.operation ∧
        ∀ statement ∈ plan.work.statements, ∀ statement' ∈ other.work.statements,
          ∀ database tuple, statement'.Finds database tuple ↔ statement.Finds database tuple) ∧
    ∀ more other, request.filters.getD [] ⊆ more →
      (compile metadata (request.withFilters more)).outcome = .ok other →
      ∀ statement ∈ plan.work.statements, ∀ statement' ∈ other.work.statements,
        ∀ database tuple, statement'.Finds database tuple → statement.Finds database tuple := by
  have sameOperation {filters : Mapping} {other : Plan}
      (compiledToo : (compile metadata (request.withFilters filters)).outcome = .ok other) :
      other.work.operation = plan.work.operation :=
    Except.ok.inj ((work_of_compile compiledToo).1.symm.trans (work_of_compile compiled).1)
  refine ⟨fun statement listed => exists_answers_of_compile compiled noInsertion listed, ?_, ?_⟩
  · intro others reordered
    have wellFormed : WellFormedFilters others :=
      (reordered.forall_iff fun _ _ => WellFormedFilter.reordered).mpr
        (wellFormed_of_compile compiled noInsertion)
    obtain ⟨other, compiledToo⟩ := succeeds_compile_withFilters compiled noInsertion wellFormed
    refine ⟨other, compiledToo, sameOperation compiledToo, ?_⟩
    intro statement listed statement' listed' database tuple
    obtain ⟨_, answers⟩ := exists_answers_of_compile compiled noInsertion listed
    obtain ⟨_, answers'⟩ := exists_answers_of_compile compiledToo
      (sameOperation compiledToo ▸ noInsertion) listed'
    rw [answers'.finds_iff, answers.finds_iff, answers.table_eq answers', reordered.asks_iff]
  · intro more other fewer compiledToo statement listed statement' listed' database tuple
    obtain ⟨_, answers⟩ := exists_answers_of_compile compiled noInsertion listed
    obtain ⟨_, answers'⟩ := exists_answers_of_compile compiledToo
      (sameOperation compiledToo ▸ noInsertion) listed'
    rw [answers'.finds_iff, answers.finds_iff, answers.table_eq answers']
    rintro ⟨stored, asks⟩
    exact ⟨stored, asks.route, fun entry inside => asks.filters entry (fewer inside)⟩

/-- A removal of the users of a role who are closed or blocked, have the age of 31, and have
no mail address or a phone number of some country. -/
def staleUsers : Request where
  operation := some "delete"
  domain := some "user"
  filters := some [("stateIn", .array [.text "closed", .text "blocked"]),
    ("contactOr", .mapping [("mailAddressNull", .null), ("phoneStart", .text "+1")]),
    ("age", .integer 31)]
  domainRoute := some { path := ["user", "role"], filters := [("roleId", .integer 5)] }

/-- What the removal of users is compiled into. -/
def staleUsersPlan : Plan where
  domain := "user"
  work := .delete {
    table := "t_user"
    conditions := [
      .inSelects "id" [.select "user_id" "j_user_and_role"
        [.compare "role_id" .equal (.number (.integer 5))]],
      .member "state" .isIn [.text "closed", .text "blocked"],
      .anyOf [.nullTest "mail_address" .isNull, .compare "phone" .like (.text "+1%")],
      .compare "age" .equal (.number (.integer 31))] }

/-- The filters of the removal of users in another order, with the alternatives the other
way round. -/
def staleUsersReordered : Mapping :=
  [("age", .integer 31),
    ("contactOr", .mapping [("phoneStart", .text "+1"), ("mailAddressNull", .null)]),
    ("stateIn", .array [.text "closed", .text "blocked"])]

example : staleUsersPlan.prepared = [⟨"DELETE FROM t_user WHERE " ++
    "id IN (SELECT user_id FROM j_user_and_role WHERE role_id = ?) AND " ++
    "state IN (?, ?) AND (mail_address IS NULL OR phone LIKE ?) AND age = ?",
    [.number (.integer 5), .text "closed", .text "blocked", .text "+1%",
      .number (.integer 31)]⟩] := by
  decide +kernel

/-- A removal along a route answers its request, and so does the one with its filters in another
order. Both find the same rows in every database. -/
theorem staleUsers_answered :
    (compile {} staleUsers).outcome = .ok staleUsersPlan ∧
      staleUsersPlan.work.operation ≠ .insert ∧
      (∀ statement ∈ staleUsersPlan.work.statements, ∃ clause,
        Answers {} staleUsers statement clause) ∧
      ∃ other, (compile {} (staleUsers.withFilters staleUsersReordered)).outcome = .ok other ∧
        ∀ statement ∈ staleUsersPlan.work.statements, ∀ statement' ∈ other.work.statements,
          ∀ database tuple, statement'.Finds database tuple ↔ statement.Finds database tuple := by
  have compiled : (compile {} staleUsers).outcome = .ok staleUsersPlan := by rfl
  have noInsertion : staleUsersPlan.work.operation ≠ .insert := by decide
  have reordered : Reordered (staleUsers.filters.getD []) staleUsersReordered := by
    refine ⟨_, .cons (.same _) (.cons (.group _ _ _ (.swap _ _ [])) (.cons (.same _) .nil)), ?_⟩
    exact (List.reverse_perm [_, _, _]).symm
  obtain ⟨answered, inAnyOrder, _⟩ := statements_answer compiled noInsertion
  obtain ⟨other, compiledToo, _, sameRows⟩ := inAnyOrder _ reordered
  exact ⟨compiled, noInsertion, answered, other, compiledToo, sameRows⟩

end DomainSql
