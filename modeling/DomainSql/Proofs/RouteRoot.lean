import DomainSql.Proofs.FilterMeaning
import DomainSql.Proofs.RouteMeaning

/-!
# Whose ids a route gives

A route is meant to restrict the domain of its request, so it is meant to start there: the
root of the route, where its outermost sub-select stands, is the request's own domain. In
fact a request names its domain and its route independently of each other, and nothing
compares them. The ids of the request's rows are compared with ids of the root, and the
restriction is the one that is meant exactly when the root is the domain of the request.
-/
namespace DomainSql

open Sql

/-- The domain that the path of a route starts from, seen from the request. -/
def DomainRoute.root? (route : DomainRoute) : Option String :=
  if route.reverse then route.path.getLast? else route.path.head?

/-- The same request about another domain. -/
def Request.about (request : Request) (domain : String) : Request :=
  { request with domain := some domain }

/-- A route restricts the rows of a domain as it is meant to: it starts from the domain, and
the first condition of a statement on the domain's table asks for ids of the domain in the
outermost join table. -/
structure RestrictsOwnDomain (naming : Naming) (route : DomainRoute) (domain : String)
    (statement : Statement) : Prop where
  table : statement.table = naming.tableName domain
  root : route.root? = some domain
  outermost : ∃ source inside others, statement.conditions =
    .inSelects naming.idColumn [.select (naming.joinIdColumn domain) source inside] :: others

/-- What a route does to a statement. The first condition asks for ids of the route's root in
the join table of the root and the domain next to it, and the statement finds no row whose
id is not among them. -/
structure RestrictsToRoot (naming : Naming) (route : DomainRoute) (near root : String)
    (statement : Statement) : Prop where
  outermost : ∃ inside others, statement.conditions = .inSelects naming.idColumn
    [.select (naming.joinIdColumn root) (route.joinTable naming near root) inside] :: others
  found : ∀ database tuple, statement.Finds database tuple →
    ∃ row ∈ database.rows (route.joinTable naming near root),
      database.Same (tuple naming.idColumn) (row (naming.joinIdColumn root))

/-- A row that has to have an id which a sub-select gives has the id of a row of the
sub-select's table. -/
theorem Sql.exists_row_of_inSelects {database : Database} {column given : ColumnName}
    {source : TableName} {inside : List Condition} {tuple : Tuple}
    (holds : (Condition.inSelects column [.select given source inside]).Holds database tuple) :
    ∃ row ∈ database.rows source, database.Same (tuple column) (row given) := by
  rw [Condition.holds_inSelects, List.forall_mem_singleton] at holds
  obtain ⟨_, selected, same⟩ := holds
  obtain ⟨row, stored, _, rfl⟩ := SubSelect.mem_values.mp selected
  exact ⟨row, stored, same⟩

namespace DomainRoute

/-- The root is the last domain of the walk. -/
theorem root?_eq_getLast?_walk (route : DomainRoute) : route.root? = route.walk.getLast? := by
  unfold root? walk
  split
  · rfl
  · rw [List.getLast?_reverse]

section
variable {naming : Naming} {route : DomainRoute}

/-- The outermost sub-select is that of the last link. The induction goes along the walk:
every link puts its own sub-select around those before it. -/
theorem outermost_of_foldlM_followLink {previous : Link} {links : List Link}
    {inside : List Condition} {outermost : SubSelect}
    (compiled : links.foldlM (route.followLink naming)
      (.select (naming.joinIdColumn previous.far) previous.table inside) = .ok outermost) :
    ∃ last inside, (previous :: links).getLast? = some last ∧
      outermost = .select (naming.joinIdColumn last.far) last.table inside := by
  induction links generalizing previous inside with
  | nil =>
    cases compiled
    exact ⟨previous, inside, rfl, rfl⟩
  | cons link rest ih =>
    rw [List.foldlM_cons, bind_eq_ok] at compiled
    obtain ⟨next, step, compiledRest⟩ := compiled
    obtain ⟨_, _, rfl⟩ := bind_pure_eq_ok.mp step
    rw [List.getLast?_cons_cons]
    exact ih compiledRest

/-- The last link leads to the root. -/
theorem walk_of_getLast?_links {last : Link} (final : (route.links naming).getLast? = some last) :
    route.walk[route.walk.length - 2]? = some last.near ∧ route.root? = some last.far ∧
      last.table = route.joinTable naming last.near last.far := by
  cases steps : route.links naming with
  | nil =>
    rw [steps] at final
    cases final
  | cons first others =>
    have length := length_walk steps
    have lastAt : (route.links naming)[others.length]? = some last := by
      rw [List.getLast?_eq_getElem?, steps] at final
      rw [steps]
      exact final
    rw [root?_eq_getLast?_walk, List.getLast?_eq_getElem?, length]
    exact getElem?_links.mp lastAt

/-- A compiled route asks for ids of its root. -/
theorem outermost_of_compile {condition : Condition}
    (compiled : (route.compile naming).outcome = .ok condition) :
    ∃ near root inside, route.walk[route.walk.length - 2]? = some near ∧
      route.root? = some root ∧ condition = .inSelects naming.idColumn
        [.select (naming.joinIdColumn root) (route.joinTable naming near root) inside] := by
  obtain ⟨first, others, conditions, outermost, steps, _, _, followed, rfl⟩ :=
    compile_eq_ok.mp compiled
  obtain ⟨last, inside, final, rfl⟩ := outermost_of_foldlM_followLink followed
  obtain ⟨nearAt, root, table⟩ := walk_of_getLast?_links (steps ▸ final)
  exact ⟨last.near, last.far, inside, nearAt, root, table ▸ rfl⟩

end

end DomainRoute

section
variable {metadata : Metadata} {request : Request} {plan : Plan} {route : DomainRoute}

/-- The condition of a route stands in front of all others. -/
theorem conditions_of_route {naming : Naming} {conditions : List Condition}
    (compiled : (request.conditions naming).outcome = .ok conditions)
    (routed : request.domainRoute = some route) :
    ∃ condition others, (route.compile naming).outcome = .ok condition ∧
      conditions = condition :: others := by
  obtain ⟨_, filtered, rfl, routes, _⟩ := conditions_split compiled
  rw [routed] at routes
  cases routes with
  | cons compiledRoute none =>
    cases none
    exact ⟨_, filtered, compiledRoute, rfl⟩

/-- Nothing but the names of tables depends on the domain of a request that inserts
nothing. -/
theorem exists_plan_about (compiled : (compile metadata request).outcome = .ok plan)
    (noInsertion : plan.work.operation ≠ .insert) {other : String}
    (plain : isIdentifier other = true) :
    ∃ plan', (compile metadata (request.about other)).outcome = .ok plan' ∧
      plan'.work.operation = plan.work.operation ∧
      ∀ statement ∈ plan.work.statements, ∀ statement' ∈ plan'.work.statements,
        statement'.table = metadata.naming.tableName other ∧
          statement'.conditions = statement.conditions := by
  obtain ⟨kind, _, compiledWork⟩ := work_of_compile compiled
  have wellFormed : (request.about other).WellFormedFor metadata.paging plan.work.operation := by
    obtain ⟨_, asked⟩ :=
      (succeeds_compileWork_of_ne_insert noInsertion).mp ⟨_, compiledWork⟩
    have sameConditions (conditions : request.WellFormedConditions) :
        (request.about other).WellFormedConditions := ⟨conditions.route, conditions.filters⟩
    revert asked noInsertion
    cases plan.work.operation with
    | insert => exact fun noInsertion => absurd rfl noInsertion
    | query => exact fun _ asked => ⟨asked.columns, sameConditions asked.conditions, asked.page⟩
    | update => exact fun _ asked => ⟨asked.data, sameConditions asked.conditions⟩
    | delete => exact fun _ asked => sameConditions asked
  have named : (request.about other).domainName = .ok other := domainName_eq_ok.mpr ⟨rfl, plain⟩
  have sameKind : (request.about other).operationKind = .ok plan.work.operation := kind
  obtain ⟨work, compiledToo⟩ := (succeeds_compileWork_of_ne_insert noInsertion).mpr
    ⟨⟨other, named⟩, wellFormed⟩
  have sameOperation : work.operation = plan.work.operation := operation_of_compileWork compiledToo
  have planned : (compile metadata (request.about other)).outcome = .ok ⟨other, work⟩ := by
    rw [compile_eq_work sameKind, named, ok_bind, compiledToo]
    rfl
  refine ⟨⟨other, work⟩, planned, sameOperation, ?_⟩
  intro statement listed statement' listed'
  obtain ⟨_, compiledWhere, shape⟩ := conditions_of_compile compiled noInsertion
  obtain ⟨_, compiledWhereToo, shapeToo⟩ := conditions_of_compile planned
    (sameOperation ▸ noInsertion)
  obtain ⟨sameToo, _, about, table⟩ := shapeToo statement' listed'
  cases about
  cases compiledWhere.symm.trans compiledWhereToo
  exact ⟨table, sameToo.trans (shape statement listed).1.symm⟩

end

/-- The route of a request restricts the rows to ids of the route's root. This is the
restriction of the request's own domain exactly where the root is that domain, which nothing
sees to: about any other domain the same request is compiled with the same conditions. -/
theorem route_restricts_to_root {metadata : Metadata} {request : Request} {plan : Plan}
    {route : DomainRoute} (compiled : (compile metadata request).outcome = .ok plan)
    (noInsertion : plan.work.operation ≠ .insert)
    (routed : request.domainRoute = some route) :
    ∃ domain near root, request.domain = some domain ∧
      route.walk[route.walk.length - 2]? = some near ∧ route.root? = some root ∧
      (∀ statement ∈ plan.work.statements,
        RestrictsToRoot metadata.naming route near root statement ∧
          (RestrictsOwnDomain metadata.naming route domain statement ↔ root = domain)) ∧
      ∀ other, isIdentifier other = true →
        ∃ plan', (compile metadata (request.about other)).outcome = .ok plan' ∧
          plan'.work.operation = plan.work.operation ∧
          ∀ statement ∈ plan.work.statements, ∀ statement' ∈ plan'.work.statements,
            statement'.table = metadata.naming.tableName other ∧
              statement'.conditions = statement.conditions := by
  obtain ⟨conditions, compiledWhere, shape⟩ := conditions_of_compile compiled noInsertion
  obtain ⟨condition, others, compiledRoute, rfl⟩ := conditions_of_route compiledWhere routed
  obtain ⟨near, root, inside, nearAt, rootAt, rfl⟩ :=
    DomainRoute.outermost_of_compile compiledRoute
  obtain ⟨_, named, _⟩ := work_of_compile compiled
  refine ⟨plan.domain, near, root, (domainName_eq_ok.mp named).1, nearAt, rootAt, ?_,
    fun other plain => exists_plan_about compiled noInsertion plain⟩
  intro statement listed
  obtain ⟨same, domain, about, table⟩ := shape statement listed
  obtain rfl : plan.domain = domain :=
    Option.some.inj ((domainName_eq_ok.mp named).1.symm.trans about)
  refine ⟨⟨⟨inside, others, same⟩, ?_⟩, ?_, ?_⟩
  · intro database tuple finds
    obtain ⟨_, answers⟩ := exists_answers_of_compile compiled noInsertion listed
    obtain ⟨_, asks⟩ := answers.finds_iff.mp finds
    obtain ⟨_, compiledToo, holds⟩ := asks.route route routed
    cases compiledRoute.symm.trans compiledToo
    exact exists_row_of_inSelects holds
  · intro own
    exact Option.some.inj (rootAt.symm.trans own.root)
  · rintro rfl
    exact ⟨table, rootAt, _, inside, others, same⟩

/-- A route from users to permissions, walked from the users. -/
def permsOfUsers : DomainRoute where
  path := ["user", "role", "perm"]
  reverse := true

/-- A query for the permissions that some user has. -/
def queryPerms : Request where
  operation := some "query"
  domain := some "perm"
  domainRoute := some permsOfUsers

/-- A query for permissions by a route that is walked from the users restricts the permissions,
since the root of the walk is the query's own domain. -/
theorem perms_restricted :
    ∃ plan, (compile {} queryPerms).outcome = .ok plan ∧ plan.work.operation ≠ .insert ∧
      queryPerms.domainRoute = some permsOfUsers ∧
      ∀ statement ∈ plan.work.statements,
        RestrictsOwnDomain {} permsOfUsers "perm" statement := by
  obtain ⟨plan, compiled⟩ : Succeeds (compile {} queryPerms).outcome := ⟨_, rfl⟩
  have noInsertion : plan.work.operation ≠ .insert := by
    cases compiled
    decide
  obtain ⟨domain, _, root, named, _, rootAt, restricted, _⟩ :=
    route_restricts_to_root compiled noInsertion rfl
  cases named
  cases rootAt
  exact ⟨plan, compiled, noInsertion, rfl, fun statement listed =>
    (restricted statement listed).2.mpr rfl⟩

section
open DomainRoute

/-- A removal of users by a route from users to roles that is walked from the users, so that
it gives roles. -/
def removeUsersOfRoles : Request where
  operation := some "delete"
  domain := some "user"
  domainRoute := some { path := ["user", "role"], reverse := true }

/-- What the removal of users is compiled into. -/
def removalOfUsers : Statement :=
  .delete ⟨"t_user", [.inSelects "id" [.select "role_id" "j_user_and_role" []]]⟩

/-- The third user has the fifth role, and the fifth user has none. -/
def roleTables : TableName → List Tuple
  | "t_user" => [numbered [("id", 3)], numbered [("id", 5)]]
  | "j_user_and_role" => [numbered [("user_id", 3), ("role_id", 5)]]
  | _ => []

/-- A route from another domain is not refused. The ids of users are compared with those of
roles, so the user is found whose id happens to be that of a role, and who has no role. -/
theorem userOfNoRole_found :
    (∃ plan, (compile {} removeUsersOfRoles).outcome = .ok plan ∧
      plan.work.statements = [removalOfUsers]) ∧
    removalOfUsers.prepare =
      ⟨"DELETE FROM t_user WHERE id IN (SELECT role_id FROM j_user_and_role)", []⟩ ∧
    (∀ route ∈ removeUsersOfRoles.domainRoute,
      route.root? = some "role" ∧ ¬ RestrictsOwnDomain {} route "user" removalOfUsers) ∧
    removalOfUsers.Finds (.usual roleTables fun _ _ => false) (numbered [("id", 5)]) ∧
    ∀ row ∈ roleTables "j_user_and_role",
      ¬ (Database.usual roleTables fun _ _ => false).Same
        (numbered [("id", 5)] "id") (row "user_id") := by
  obtain ⟨plan, compiled, made⟩ :
      ∃ plan, (compile {} removeUsersOfRoles).outcome = .ok plan ∧
        plan.work.statements = [removalOfUsers] := ⟨_, rfl, rfl⟩
  refine ⟨⟨plan, compiled, made⟩, by decide +kernel, ?_, ?_, by decide +kernel⟩
  · rintro _ ⟨⟩
    refine ⟨rfl, fun own => ?_⟩
    exact absurd own.root (by decide)
  · have noInsertion : plan.work.operation ≠ .insert := by
      cases compiled
      decide
    obtain ⟨_, answers⟩ := exists_answers_of_compile compiled noInsertion
      (made ▸ List.mem_singleton_self removalOfUsers)
    have stored : numbered [("id", 5)] ∈ roleTables removalOfUsers.table :=
      List.mem_cons_of_mem _ List.mem_cons_self
    refine answers.finds_iff.mpr ⟨stored, ?_, nofun⟩
    rintro _ ⟨⟩
    exact ⟨.inSelects "id" [.select "role_id" "j_user_and_role" []], rfl, by decide +kernel⟩

end

end DomainSql
