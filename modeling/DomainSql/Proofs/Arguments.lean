import DomainSql.Proofs.FilterMeaning
import DomainSql.Proofs.Insertions
import DomainSql.Proofs.RouteMeaning

/-!
# Which values a request binds

The route of a request is compiled from the leaf outwards, and it is written from the root
inwards. So the values of a request are taken up in another order than that of the
placeholders they are bound to.

What a request binds is told here from the request alone, part by part, and the parts stand
in the order of the placeholders. The arguments of a compiled statement are these values, and
each of them is a scalar.
-/
namespace DomainSql

open Sql

/-! ### What a request binds -/

namespace Value

/-- The items of an array. -/
def items : Value → List Value
  | .array items => items
  | _ => []

/-- The entries of a mapping. -/
def entries : Value → Mapping
  | .mapping entries => entries
  | _ => []

/-- The pattern around the text that a scalar is searched by. -/
def pattern (around : String → String) : Value → List Value
  | .scalar leaf => (searchText? leaf).toList.map fun text => .text (around text)
  | _ => []

end Value

/-- What an operator binds of the value of its filter. -/
def Operator.bound (operator : Operator) (value : Value) : List Value :=
  match operator with
  | .eq | .ne | .not | .gt | .ge | .lt | .le => [value]
  | .isIn | .notIn => value.items
  | .contain | .notLike => value.pattern fun text => "%" ++ text ++ "%"
  | .start => value.pattern fun text => text ++ "%"
  | .end_ => value.pattern fun text => "%" ++ text
  | .null | .notNull => []

/-- What an entry that is a single condition binds. -/
def boundByCondition (entry : String × Value) : List Value :=
  (Operator.resolve entry.1).2.bound entry.2

/-- What an entry binds: under a key with the suffix of alternatives, what the entries of its
mapping bind. -/
def boundByEntry (entry : String × Value) : List Value :=
  if alternativesSuffix.toList <:+ entry.1.toList then entry.2.entries.flatMap boundByCondition
  else boundByCondition entry

/-- What a filter mapping binds. -/
def boundByFilters (filters : Mapping) : List Value := filters.flatMap boundByEntry

namespace DomainRoute

/-- What the query on a domain in between binds, if there is one. -/
def boundByQuery (route : DomainRoute) (domain : String) : List Value :=
  match Mapping.value? route.filters (queryKey domain) with
  | none => []
  | some query => boundByFilters query.entries

/-- What the filter that applies at the leaf binds. A mapping is a query on the leaf. -/
def boundAtLeaf (route : DomainRoute) (leaf : String) : List Value :=
  match route.appliedFilter? leaf with
  | none => []
  | some (_, .mapping query) => boundByFilters query
  | some filter => boundByEntry filter

/-- What a route binds, from the root to the leaf. A domain that the walk passes twice has
its query bound twice. -/
def bound (route : DomainRoute) : List Value :=
  route.interior.reverse.flatMap route.boundByQuery ++
    route.walk.head?.toList.flatMap route.boundAtLeaf

end DomainRoute

namespace Request

/-- What the conditions of a request bind, the route in front of the filters. -/
def boundByConditions (request : Request) : List Value :=
  request.domainRoute.toList.flatMap DomainRoute.bound ++
    boundByFilters (request.filters.getD [])

/-- The rows of a request; nothing stands for none. -/
def givenRows (request : Request) : List Row := request.data.getD []

/-- The row that gives an insertion its columns and an update its assignments. -/
def firstRow (request : Request) : Row := request.givenRows.headD []

/-- What a request binds in each of its statements. -/
def bound (request : Request) : Operation → List Value
  | .query | .delete => request.boundByConditions
  | .update => request.firstRow.map Prod.snd ++ request.boundByConditions
  | .insert => request.givenRows.flatMap fun row =>
    (Mapping.keys request.firstRow).filterMap (Mapping.value? row)

end Request

/-! ### Arguments of terms -/

namespace Sql

/-- The arguments of a condition. -/
def Condition.arguments (condition : Condition) : List Scalar :=
  (prepare condition.render).arguments

/-- The arguments of a sub-select. -/
def SubSelect.arguments (select : SubSelect) : List Scalar := (prepare select.render).arguments

/-- Joined conditions bind their values from left to right. -/
theorem arguments_renderConditions (separator : String) (conditions : List Condition) :
    (prepare (renderConditions separator conditions)).arguments =
      conditions.flatMap Condition.arguments := by
  rw [renderConditions_eq_separated, arguments_separated, List.flatMap_map]
  rfl

/-- The keyword in front of conditions binds nothing. -/
theorem arguments_where (conditions : List Condition) :
    (prepare (renderWhere conditions)).arguments = conditions.flatMap Condition.arguments := by
  have keyword : (prepare (whereKeyword conditions)).arguments = [] := by
    cases conditions <;> rfl
  rw [renderWhere, arguments_prepare_append, keyword, arguments_renderConditions, List.nil_append]

/-- A comparison binds its value. -/
theorem Condition.arguments_compare (column : ColumnName) (relation : Comparison)
    (value : Scalar) : (Condition.compare column relation value).arguments = [value] := by
  rw [arguments, render]
  rfl

/-- A membership test binds its values in order. -/
theorem Condition.arguments_member (column : ColumnName) (test : Membership)
    (values : List Scalar) : (Condition.member column test values).arguments = values := by
  rw [arguments, render, arguments_text, arguments_text, arguments_valueList]

/-- A null test binds nothing. -/
theorem Condition.arguments_nullTest (column : ColumnName) (test : NullTest) :
    (Condition.nullTest column test).arguments = [] := by
  rw [arguments, render]
  rfl

/-- Alternatives bind from left to right, in parentheses or not. -/
theorem Condition.arguments_anyOf (alternatives : List Condition) :
    (Condition.anyOf alternatives).arguments = alternatives.flatMap arguments := by
  rw [arguments, render, arguments_text, arguments_prepare_append, arguments_renderConditions]
  exact List.append_nil _

/-- Sub-selects bind one after the other. -/
theorem Condition.arguments_inSelects (column : ColumnName) (selects : List SubSelect) :
    (Condition.inSelects column selects).arguments = selects.flatMap SubSelect.arguments := by
  rw [arguments, render, arguments_text, arguments_text, arguments_prepare_append,
    renderSelects_eq_separated, arguments_separated, List.flatMap_map]
  exact List.append_nil _

/-- A sub-select binds what its conditions bind. -/
theorem SubSelect.arguments_select (column : ColumnName) (source : TableName)
    (conditions : List Condition) : (SubSelect.select column source conditions).arguments =
      conditions.flatMap Condition.arguments := by
  rw [arguments, SubSelect.render_eq, arguments_text, arguments_text, arguments_text,
    arguments_text, arguments_where]

/-- A statement has the arguments in front of its clause, and behind them those of its
conditions. -/
theorem Statement.arguments_prepare (statement : Statement) :
    statement.prepare.arguments =
      statement.front.arguments ++ statement.conditions.flatMap Condition.arguments := by
  rw [prepare_eq_around, around, arguments_where]

end Sql

/-! ### Conditions of filters -/

section
variable {naming : Naming} {condition : Condition} {conditions : List Condition}

/-- A condition binds what its operator binds. -/
theorem Operator.arguments_condition {operator : Operator} {column : ColumnName} {key : String}
    {value : Value} (compiled : operator.condition column key value = .ok condition) :
    condition.arguments.map Value.scalar = operator.bound value := by
  cases operator with
  | eq | ne | not | gt | ge | lt | le =>
    obtain ⟨scalar, taken, rfl⟩ := bind_pure_eq_ok.mp compiled
    rw [Condition.arguments_compare, scalarOf_eq_ok.mp taken]
    rfl
  | contain | start | end_ | notLike =>
    obtain ⟨pattern, made, rfl⟩ := bind_pure_eq_ok.mp compiled
    obtain ⟨scalar, text, rfl, searched, rfl⟩ := patternOf_eq_ok made
    simp [Condition.arguments_compare, bound, Value.pattern, searched, Wildcards.around]
  | isIn | notIn =>
    obtain ⟨scalars, taken, rfl⟩ := bind_pure_eq_ok.mp compiled
    rw [Condition.arguments_member, scalarsOf_eq_ok taken]
    rfl
  | null | notNull =>
    cases compiled
    rw [Condition.arguments_nullTest]
    rfl

/-- What a single condition binds is what its entry gives. -/
theorem arguments_compileCondition {entry : String × Value}
    (compiled : compileCondition naming entry.1 entry.2 = .ok condition) :
    condition.arguments.map Value.scalar = boundByCondition entry := by
  obtain ⟨_, _, built⟩ := bind_eq_ok.mp compiled
  exact Operator.arguments_condition built

/-- What an entry of a filter mapping binds is what it gives, alternatives included. -/
theorem arguments_compileFilter {entry : String × Value}
    (compiled : compileFilter naming entry.1 entry.2 = .ok condition) :
    condition.arguments.map Value.scalar = boundByEntry entry := by
  obtain ⟨key, value⟩ := entry
  simp only [compileFilter, isSome_beforeSuffix?] at compiled
  unfold boundByEntry
  split at compiled
  · rename_i suffixed
    rw [if_pos suffixed]
    unfold compileAlternatives at compiled
    split at compiled
    · cases compiled
    · obtain ⟨alternatives, each, rfl⟩ := bind_pure_eq_ok.mp compiled
      rw [Condition.arguments_anyOf, List.map_flatMap]
      exact flatMap_result_eq
        ((mapM_eq_ok.mp each).imp fun _ _ compiledHere => arguments_compileCondition compiledHere)
    · cases compiled
  · rename_i plain
    rw [if_neg plain]
    exact arguments_compileCondition compiled

/-- The conditions of a filter mapping bind what its entries bind, in the order of the
entries. -/
theorem arguments_compileFilters {filters : Mapping}
    (compiled : compileFilters naming filters = .ok conditions) :
    (conditions.flatMap Condition.arguments).map Value.scalar = boundByFilters filters := by
  rw [List.map_flatMap]
  exact flatMap_result_eq
    ((mapM_eq_ok.mp compiled).imp fun _ _ compiledHere => arguments_compileFilter compiledHere)

end

/-! ### Conditions of routes -/

namespace DomainRoute

section
variable {naming : Naming} {route : DomainRoute}

/-- The query on a domain in between binds what its filters give. -/
theorem arguments_interiorQuery {domain : String} {selects : List SubSelect}
    (compiled : route.interiorQuery naming domain = .ok selects) :
    (selects.flatMap SubSelect.arguments).map Value.scalar = route.boundByQuery domain := by
  unfold interiorQuery at compiled
  unfold boundByQuery
  split at compiled
  · rename_i absent
    cases compiled
    rw [absent]
    rfl
  · rename_i query present
    obtain ⟨conditions, compiledQuery, rfl⟩ := bind_pure_eq_ok.mp compiled
    rw [present, List.flatMap_singleton, SubSelect.arguments_select]
    exact arguments_compileFilters compiledQuery
  · cases compiled

/-- A link binds its own query in front of what the links before it bind. -/
theorem arguments_followLink {found next : SubSelect} {link : Link}
    (compiled : route.followLink naming found link = .ok next) :
    next.arguments.map Value.scalar =
      route.boundByQuery link.near ++ found.arguments.map Value.scalar := by
  obtain ⟨selects, compiledQuery, rfl⟩ := bind_pure_eq_ok.mp compiled
  rw [SubSelect.arguments_select, List.flatMap_singleton, Condition.arguments_inSelects,
    List.flatMap_append, List.flatMap_singleton, List.map_append,
    arguments_interiorQuery compiledQuery]

/-- The last link of the walk is the first one to bind. The induction goes along the walk:
every link puts its query in front of what has been bound so far. -/
theorem arguments_foldlM_followLink {links : List Link} {found outermost : SubSelect}
    (compiled : links.foldlM (route.followLink naming) found = .ok outermost) :
    outermost.arguments.map Value.scalar =
      (links.map Link.near).reverse.flatMap route.boundByQuery ++
        found.arguments.map Value.scalar := by
  induction links generalizing found with
  | nil =>
    cases compiled
    rfl
  | cons link rest ih =>
    rw [List.foldlM_cons, bind_eq_ok] at compiled
    obtain ⟨next, step, compiledRest⟩ := compiled
    rw [ih compiledRest, arguments_followLink step, List.map_cons, List.reverse_cons,
      List.flatMap_append, List.flatMap_singleton, List.append_assoc]

/-- The filter at the leaf binds what it gives, whether it is a query on the leaf or not. -/
theorem arguments_leafCondition {leaf key : String} {value : Value} {condition : Condition}
    (applied : route.appliedFilter? leaf = some (key, value))
    (compiled : route.leafCondition naming leaf key value = .ok condition) :
    condition.arguments.map Value.scalar = route.boundAtLeaf leaf := by
  unfold boundAtLeaf
  rw [applied]
  cases value with
  | mapping query =>
    obtain ⟨conditions, compiledQuery, rfl⟩ := bind_pure_eq_ok.mp compiled
    rw [Condition.arguments_inSelects, List.flatMap_singleton, SubSelect.arguments_select]
    exact arguments_compileFilters compiledQuery
  | scalar _ => exact arguments_compileFilter compiled
  | array _ => exact arguments_compileFilter compiled

/-- At the leaf only the filter that applies binds anything. -/
theorem arguments_leafConditions {leaf : String} {conditions : List Condition}
    (compiled : (route.leafConditions naming leaf route.interior).outcome = .ok conditions) :
    (conditions.flatMap Condition.arguments).map Value.scalar = route.boundAtLeaf leaf := by
  have applied := appliedFilter?_eq_head? route leaf
  rcases leafConditions_eq_ok.mp compiled with
    ⟨found, rfl⟩ | ⟨key, value, others, condition, found, _, translated, rfl⟩
  · rw [found] at applied
    rw [boundAtLeaf, applied]
    rfl
  · rw [found] at applied
    rw [List.flatMap_singleton]
    exact arguments_leafCondition applied translated

/-- A route binds the queries of the domains in between, from the root to the leaf, and
behind them what the filter at the leaf binds. -/
theorem arguments_compile {condition : Condition}
    (compiled : (route.compile naming).outcome = .ok condition) :
    condition.arguments.map Value.scalar = route.bound := by
  obtain ⟨first, others, conditions, outermost, steps, _, atLeaf, followed, rfl⟩ :=
    compile_eq_ok.mp compiled
  rw [Condition.arguments_inSelects, List.flatMap_singleton,
    arguments_foldlM_followLink followed, nears_eq_interior steps, SubSelect.arguments_select,
    arguments_leafConditions atLeaf, bound, head?_walk steps]
  simp

end

end DomainRoute

/-! ### Statements -/

section
variable {metadata : Metadata} {request : Request} {plan : Plan}

/-- The conditions of a request bind what its route gives and then what its filters give. -/
theorem arguments_conditions {naming : Naming} {conditions : List Condition}
    (compiled : (request.conditions naming).outcome = .ok conditions) :
    (conditions.flatMap Condition.arguments).map Value.scalar = request.boundByConditions := by
  obtain ⟨routed, filtered, rfl, routes, compiledFilters⟩ := conditions_split compiled
  have ofRoute : routed.flatMap (fun condition => condition.arguments.map Value.scalar) =
      request.domainRoute.toList.flatMap DomainRoute.bound :=
    flatMap_result_eq (routes.imp fun _ _ => DomainRoute.arguments_compile)
  rw [List.flatMap_append, List.map_append, arguments_compileFilters compiledFilters,
    List.map_flatMap, ofRoute, Request.boundByConditions]

/-- An update binds the values of the first row in front of its clause. -/
theorem arguments_assignments {update : Update}
    (compiled : (compileUpdate metadata request).outcome = .ok update) :
    (update.assignments.map Prod.snd).map Value.scalar = request.firstRow.map Prod.snd := by
  obtain ⟨row, assigns⟩ := exists_assigns compiled
  obtain ⟨others, data⟩ := assigns.data
  rw [compileUpdate_eq_target assigns] at compiled
  obtain ⟨_, _, rfl⟩ := map_eq_ok.mp compiled
  simp [Request.firstRow, Request.givenRows, data]

/-- An insertion binds the values of its rows in the order of the first row's keys. -/
theorem arguments_compileInsert {insert : Insert}
    (compiled : compileInsert metadata request = .ok insert) :
    (prepare insert.render).arguments.map Value.scalar = request.bound .insert := by
  obtain ⟨first, others, domain, rows, data, _, compiledRows, rfl⟩ :=
    exists_rows_of_compileInsert compiled
  have ofRow {row : Row} {keys : List String} {cells : List Scalar}
      (held : List.Forall₂ (fun key cell => Mapping.value? row key = some (.scalar cell))
        keys cells) : cells.map Value.scalar = keys.filterMap (Mapping.value? row) := by
    induction held with
    | nil => rfl
    | cons found _ ih => rw [List.map_cons, List.filterMap_cons_some found, ih]
  rw [Insert.arguments_render, List.flatten_eq_flatMap, List.map_flatMap]
  simp only [Request.bound, Request.firstRow, Request.givenRows, data, Option.getD_some,
    List.headD_cons]
  exact flatMap_result_eq ((cells_of_compileRows compiledRows).imp fun _ _ => ofRow)

/-- The arguments of a clause are what the conditions of the request bind. -/
theorem arguments_clause (compiled : (compile metadata request).outcome = .ok plan)
    (noInsertion : plan.work.operation ≠ .insert) {statement : Statement}
    (listed : statement ∈ plan.work.statements) :
    (statement.conditions.flatMap Condition.arguments).map Value.scalar =
      request.boundByConditions := by
  obtain ⟨conditions, compiledWhere, shape⟩ := conditions_of_compile compiled noInsertion
  rw [(shape statement listed).1]
  exact arguments_conditions compiledWhere

end

/-- The arguments of every statement of a compiled request are the values that the request
binds, in their order. -/
theorem arguments_bound {metadata : Metadata} {request : Request} {plan : Plan}
    (compiled : (compile metadata request).outcome = .ok plan) :
    request.operation = some plan.work.operation.name ∧
      ∀ prepared ∈ plan.prepared,
        prepared.arguments.map Value.scalar = request.bound plan.work.operation := by
  obtain ⟨kind, _, compiledWork⟩ := work_of_compile compiled
  refine ⟨operationKind_eq_ok.mp kind, List.forall_mem_map.mpr fun statement listed => ?_⟩
  have clause := arguments_clause compiled
  obtain ⟨domain, work⟩ := plan
  rw [Statement.arguments_prepare, List.map_append]
  cases work with
  | query rows count =>
    rw [clause nofun listed]
    rcases List.mem_pair.mp listed with rfl | rfl <;> rfl
  | delete delete =>
    rw [clause nofun listed]
    obtain rfl := List.mem_singleton.mp listed
    rfl
  | update update =>
    rw [clause nofun listed]
    obtain rfl := List.mem_singleton.mp listed
    obtain ⟨_, compiledUpdate, same⟩ := Traced.outcome_bind_eq_ok.mp compiledWork
    cases same
    exact congrArg (· ++ request.boundByConditions) (arguments_assignments compiledUpdate)
  | insert insert =>
    obtain rfl := List.mem_singleton.mp listed
    obtain ⟨_, compiledInsert, same⟩ := Traced.outcome_bind_eq_ok.mp compiledWork
    cases same
    exact (List.append_nil _).trans (arguments_compileInsert compiledInsert)

/-- An update of the users who are found by way of a role, a user and another role of a
permission. The query on roles applies to both of them. -/
def retireUsers : Request where
  operation := some "update"
  domain := some "user"
  data := some [[("state", .text "retired"), ("age", .null)]]
  filters := some [("contactOr", .mapping [("nameContain", .text "ann"), ("mailNull", .null)]),
    ("codeEnd", .integer 7)]
  domainRoute := some {
    path := ["user", "role", "user", "role", "perm"]
    filters := [("userQuery", .mapping [("id", .integer 3)]),
      ("permStart", .text "read"),
      ("roleQuery",
        .mapping [("rankIn", .array [.integer 1, .integer 2]), ("valid", .bool true)])] }

/-- What the update of users binds: the assigned values, the query on roles, the one on users,
once more that on roles, the filter on permissions, and the filters. -/
def retiredArguments : List Scalar :=
  [.text "retired", .null, .number (.integer 1), .number (.integer 2), .bool true,
    .number (.integer 3), .number (.integer 1), .number (.integer 2), .bool true, .text "read%",
    .text "%ann%", .text "%7"]

/-- An update along a route: the assigned values come first, then the route from its root to its
leaf, then the filters. -/
theorem retiredUsers_bound :
    retireUsers.bound .update = retiredArguments.map Value.scalar ∧
      ∃ domain update, (compile {} retireUsers).outcome = .ok ⟨domain, .update update⟩ ∧
        (Statement.update update).prepare.arguments = retiredArguments := by
  have told : retireUsers.bound .update = retiredArguments.map Value.scalar := by rfl
  have accepted : (compile {} retireUsers).outcome.isOk = true := by decide +kernel
  obtain ⟨⟨domain, work⟩, compiled⟩ := succeeds_of_isOk accepted
  obtain ⟨named, binds⟩ := arguments_bound compiled
  cases work with
  | update update =>
    have same := (binds _ List.mem_cons_self).trans told
    exact ⟨told, domain, update, compiled,
      List.map_injective_iff.mpr (fun _ _ => Value.scalar.inj) same⟩
  | query rows count => simp [retireUsers, Work.operation, Operation.name] at named
  | insert insert => simp [retireUsers, Work.operation, Operation.name] at named
  | delete delete => simp [retireUsers, Work.operation, Operation.name] at named

end DomainSql
