import DomainSql.Proofs.RouteMeaning

/-!
# What decides what a leaf filter means

A filter on the leaf of a route is the query on the leaf, which is about the leaf's
own table, or a filter on the innermost join table. The name of its key is meant to
tell the two apart: the query on the leaf stands under the leaf's name and the suffix
of queries. In fact the kind of the value does. Both rules agree as long as the value
is of the kind that its key announces. Where it is not, they may part: a number under
the key of the query is compared with a column of that name, and a mapping under the
key of another domain that starts with the leaf's name is taken for a query on the
leaf.
-/
namespace DomainSql.DomainRoute

open Sql

/-- The condition of a leaf filter by the rule that its key decides. Under the key of
the query on the leaf there has to be a mapping, as there has to be for a domain in
between, and every other filter is one on the join table. -/
def ruledByKey (naming : Naming) (route : DomainRoute) (leaf key : String) (value : Value) :
    Except CompileError Condition :=
  if key = queryKey leaf then
    match value with
    | .mapping query => do
      let idColumn := route.lastDomainIdColumn.getD naming.idColumn
      return .inSelects (naming.joinIdColumn leaf)
        [.select idColumn (naming.tableName leaf) (← compileFilters naming query)]
    | _ => .error (.unexpectedValue key .object)
  else compileFilter naming key value

section
variable {naming : Naming} {route : DomainRoute} {leaf key : String} {value : Value}

/-- The value of a leaf filter is of the kind that its key announces: a mapping for
the query on the leaf, and no mapping for any other filter. -/
def Announced (leaf key : String) (value : Value) : Prop :=
  key = queryKey leaf ↔ ∃ query, value = .mapping query

/-- By either rule a filter of the kind that its key announces compiles to the same condition, or
fails for the same reason. -/
theorem leafCondition_eq_ruledByKey (announced : Announced leaf key value) :
    route.leafCondition naming leaf key value = route.ruledByKey naming leaf key value := by
  by_cases isQuery : key = queryKey leaf
  · obtain ⟨query, rfl⟩ := announced.mp isQuery
    rw [ruledByKey, if_pos isQuery, leafCondition]
  · have direct : ∀ query, value ≠ .mapping query := by
      intro query mapped
      exact isQuery (announced.mpr ⟨query, mapped⟩)
    unfold ruledByKey
    rw [if_neg isQuery, leafCondition]
    exact direct

/-- If no two filters on the leaf exclude each other, the first one gives the one
condition at the leaf, or its error. -/
theorem leafConditions_of_applied (applied : route.appliedFilter? leaf = some (key, value))
    (agree : ∀ entry ∈ route.leafFilters leaf route.interior,
      entry.1 = queryKey leaf ↔ key = queryKey leaf) :
    (route.leafConditions naming leaf route.interior).outcome =
      (route.leafCondition naming leaf key value).map fun condition => [condition] := by
  rw [appliedFilter?_eq_head?] at applied
  obtain ⟨others, found⟩ := List.head?_eq_some_iff.mp applied
  rw [found] at agree
  have alike : (others.find? fun entry =>
      decide (entry.1 = queryKey leaf) != decide (key = queryKey leaf)) = none := by
    rw [List.find?_eq_none]
    intro entry inside
    simp [agree entry (List.mem_cons_of_mem _ inside)]
  unfold leafConditions
  simp only [found, alike, Traced.outcome_bind, Traced.outcome_tell, Traced.outcome_lift,
    Traced.outcome_pure]
  cases route.leafCondition naming leaf key value <;> rfl

/-- The filter that applies at the leaf means what its key says, if its value is of
the kind that the key announces. -/
theorem leafConditions_eq_ruledByKey (applied : route.appliedFilter? leaf = some (key, value))
    (agree : ∀ entry ∈ route.leafFilters leaf route.interior,
      entry.1 = queryKey leaf ↔ key = queryKey leaf)
    (announced : Announced leaf key value) :
    (route.leafConditions naming leaf route.interior).outcome =
      (route.ruledByKey naming leaf key value).map fun condition => [condition] := by
  rw [leafConditions_of_applied applied agree, leafCondition_eq_ruledByKey announced]

end

/-- A route from users to their roles with one filter. -/
def rolesBy (key : String) (value : Value) : DomainRoute where
  path := ["user", "role"]
  filters := [(key, value)]

/-- A query on the leaf under the leaf's key means the same by both rules. -/
theorem validRoles_ruledByKey :
    (rolesBy "roleQuery" (.mapping [("valid", .bool true)])).appliedFilter? "role" =
        some ("roleQuery", .mapping [("valid", .bool true)]) ∧
      ((rolesBy "roleQuery" (.mapping [("valid", .bool true)])).leafConditions {} "role"
          (rolesBy "roleQuery" (.mapping [("valid", .bool true)])).interior).outcome =
        ((rolesBy "roleQuery" (.mapping [("valid", .bool true)])).ruledByKey {} "role" "roleQuery"
          (.mapping [("valid", .bool true)])).map fun condition => [condition] :=
  ⟨rfl, leafConditions_eq_ruledByKey rfl (by decide) ⟨fun _ => ⟨_, rfl⟩, fun _ => rfl⟩⟩

/-- The key does not decide. A number under the key of the query on the leaf is
compared with a column of that name instead of being refused, and a mapping under the
key of another domain is taken for a query on the leaf's own table. -/
theorem not_ruledByKey :
    ((rolesBy "roleQuery" (.integer 5)).compile {}).outcome =
        .ok (.inSelects "id" [.select "user_id" "j_user_and_role"
          [.compare "role_query" .equal (.number (.integer 5))]]) ∧
      (rolesBy "roleQuery" (.integer 5)).ruledByKey {} "role" "roleQuery" (.integer 5) =
        .error (.unexpectedValue "roleQuery" .object) ∧
    ((rolesBy "roleGroupQuery" (.mapping [("valid", .bool true)])).compile {}).outcome =
        .ok (.inSelects "id" [.select "user_id" "j_user_and_role"
          [.inSelects "role_id" [.select "id" "t_role"
            [.compare "valid" .equal (.bool true)]]]]) ∧
      (rolesBy "roleGroupQuery" (.mapping [("valid", .bool true)])).ruledByKey {} "role"
          "roleGroupQuery" (.mapping [("valid", .bool true)]) =
        .error (.unexpectedValue "roleGroupQuery" .scalar) :=
  ⟨rfl, rfl, rfl, rfl⟩

end DomainSql.DomainRoute
