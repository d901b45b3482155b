import DomainSql.Proofs.ReversedRoute
import DomainSql.Proofs.RouteAccount
import DomainSql.Proofs.Suffixes

/-!
# The column of a filter on the leaf's id

The id of a domain has one column in all join tables that the domain takes part in, and its
name is made by a template. The links of a route read a domain under this name. A filter on
the leaf names its column in another way: the operator's suffix is taken off the key, and
what is left is folded like any other field.

A filter on the leaf's id, whose key is the name of that column and a suffix, so comes to
the column where folding leaves the name alone. A leaf with a capital letter has a column
that folding does not leave alone. There the filter is about a column that the join table
does not have, and no other key is about the one that it has.
-/
namespace DomainSql

open Sql

namespace Naming

/-- A plain name is the column of some field if it is its own column, which it is unless
columns are folded and it has a capital letter. -/
theorem columnName_tfae (naming : Naming) {name : String} (plain : isIdentifier name = true) :
    List.TFAE [naming.columnName name = name, ∃ field, naming.columnName field = name,
      naming.foldCase = false ∨ ∀ c ∈ name.toList, c.isUpper = false] := by
  tfae_have 1 → 2 := fun own => ⟨name, own⟩
  tfae_have 2 → 3 := by
    rintro ⟨field, rfl⟩
    by_cases folds : naming.foldCase = true
    · right
      rw [columnName, if_pos folds]
      exact noCapital_foldField field
    · exact Or.inl (by simpa using folds)
  tfae_have 3 → 1 := by
    rintro (unfolded | noCapital)
    · simp [columnName, unfolded]
    · exact DomainRoute.columnName_of_small naming ⟨plain, noCapital⟩
  tfae_finish

end Naming

/-- The condition of an operator names the one column that it is about. -/
theorem Operator.names_condition {operator : Operator} {column : ColumnName} {key : String}
    {value : Value} {condition : Condition}
    (compiled : operator.condition column key value = .ok condition) :
    condition.names = [column] := by
  cases operator <;>
    simp only [Operator.condition, bind_eq_ok, pure_eq_ok, Except.ok.injEq] at compiled
  case null | notNull => exact compiled ▸ rfl
  all_goals
    obtain ⟨_, _, rfl⟩ := compiled
    rfl

namespace DomainRoute

/-- The key of an id and a suffix are taken apart into the same two. -/
theorem resolve_idKey_suffix (domain : String) (operator : Operator) :
    Operator.resolve (idKey domain ++ operator.suffix) = (idKey domain, operator) := by
  have notEmpty : idKey domain ≠ "" := by
    intro empty
    have letters := congrArg String.toList empty
    simp [toList_idKey] at letters
  rw [Operator.resolve_eq_iff, Operator.denotes_suffixed_iff notEmpty]
  rintro ⟨rest, _, _, ends, _⟩
  have last := congrArg (fun key => key.toList.getLast?) ends
  simp [toList_idKey] at last

/-- No operator's suffix makes a key one of alternatives. -/
theorem not_alternatives (field : String) (operator : Operator) :
    ¬ alternativesSuffix.toList <:+ (field ++ operator.suffix).toList := by
  intro ends
  have within : alternativesSuffix.toList <:+ operator.suffix.toList := by
    rw [String.toList_append] at ends
    refine List.suffix_of_suffix_length_le ends (List.suffix_append _ _) ?_
    cases operator <;> decide
  revert within
  cases operator <;> decide

section
variable {naming : Naming} {route : DomainRoute} {domain : String}

/-- A filter on the id of a domain is the condition of its operator, on the folded name of
the id. -/
theorem compileFilter_idKey_suffix (plain : isIdentifier domain = true) (operator : Operator)
    (value : Value) :
    compileFilter naming (idKey domain ++ operator.suffix) value =
      operator.condition (naming.columnName (idKey domain)) (idKey domain ++ operator.suffix)
        value := by
  have checked : checkIdentifier (idKey domain ++ operator.suffix) (idKey domain) = .ok () :=
    checkIdentifier_eq_ok.mpr (isIdentifier_idKey plain)
  have single : ¬ (beforeSuffix? alternativesSuffix (idKey domain ++ operator.suffix)).isSome := by
    rw [isSome_beforeSuffix?]
    exact not_alternatives _ operator
  rw [compileFilter, if_neg single, compileCondition, resolve_idKey_suffix]
  simp only [checked, ok_bind]

/-- The sub-select on the innermost join table stands inside the condition of a route, under
what becomes of the filters on the leaf. The leaf has a plain name. -/
theorem exists_innermost {leaf : String} {condition : Condition}
    (compiled : (route.compile naming).outcome = .ok condition)
    (atLeaf : route.walk.head? = some leaf) :
    isIdentifier leaf = true ∧ ∃ far conditions, route.walk[1]? = some far ∧
      (route.leafConditions naming leaf route.interior).outcome = .ok conditions ∧
      condition.Encloses
        (.select (naming.joinIdColumn far) (route.joinTable naming leaf far) conditions) := by
  obtain ⟨first, others, conditions, outermost, steps, checked, compiledLeaf, followed, rfl⟩ :=
    compile_eq_ok.mp compiled
  have firstAt : (route.links naming)[0]? = some first := by
    rw [steps]
    rfl
  obtain ⟨nearAt, farAt, table⟩ := getElem?_links.mp firstAt
  obtain rfl : leaf = first.near := Option.some.inj (atLeaf.symm.trans (head?_walk steps))
  refine ⟨(checkNames_eq_ok.mp checked).1 _ (mem_path_of_walk nearAt), first.far, conditions, farAt,
    compiledLeaf, ?_⟩
  rw [← table]
  exact Condition.encloses_inSelects (List.mem_singleton_self _)
    (foldlM_followLink_encloses (Or.inl rfl) followed)

/-- The one condition at the leaf is that of the filter that applies there. -/
theorem exists_leafCondition {leaf key : String} {value : Value} {conditions : List Condition}
    (compiled : (route.leafConditions naming leaf route.interior).outcome = .ok conditions)
    (applied : route.appliedFilter? leaf = some (key, value)) :
    ∃ part, conditions = [part] ∧ route.leafCondition naming leaf key value = .ok part := by
  rw [appliedFilter?_eq_head?] at applied
  rcases leafConditions_eq_ok.mp compiled with
    ⟨none, _⟩ | ⟨key, present, _, part, found, _, translated, same⟩
  · rw [none] at applied
    cases applied
  · rw [found] at applied
    obtain ⟨rfl, rfl⟩ := Prod.mk.inj (Option.some.inj applied)
    exact ⟨part, same, translated⟩

/-- A value that is no mapping is a filter on the join table. -/
theorem leafCondition_of_direct {leaf key : String} {value : Value}
    (direct : ∀ query, value ≠ .mapping query) :
    route.leafCondition naming leaf key value = compileFilter naming key value := by
  cases value with
  | mapping query => exact absurd rfl (direct query)
  | scalar scalar => rfl
  | array items => rfl

/-- If the filter that applies at the leaf is one on the leaf's id, the condition on the
innermost join table is the condition of the operator, and it is about the folded name of
the leaf's column. This is the column of the join table unless columns are folded and the
leaf has a capital letter, and then no field has that column. -/
theorem idCondition_on_folded_column {leaf : String} {operator : Operator} {value : Value}
    {condition : Condition} (format : naming.joinIdFormat = "\x7b\x7d_id")
    (compiled : (route.compile naming).outcome = .ok condition)
    (atLeaf : route.walk.head? = some leaf)
    (applied : route.appliedFilter? leaf =
      some (naming.joinIdColumn leaf ++ operator.suffix, value))
    (direct : ∀ query, value ≠ .mapping query) :
    ∃ far part, route.walk[1]? = some far ∧
      (route.leafConditions naming leaf route.interior).outcome = .ok [part] ∧
      condition.Encloses
        (.select (naming.joinIdColumn far) (route.joinTable naming leaf far) [part]) ∧
      operator.condition (naming.columnName (naming.joinIdColumn leaf))
        (naming.joinIdColumn leaf ++ operator.suffix) value = .ok part ∧
      part.names = [naming.columnName (naming.joinIdColumn leaf)] ∧
      List.TFAE [part.names = [naming.joinIdColumn leaf],
        ∃ field, naming.columnName field = naming.joinIdColumn leaf,
        naming.foldCase = false ∨ ∀ c ∈ leaf.toList, c.isUpper = false] := by
  obtain ⟨plain, far, conditions, farAt, compiledLeaf, inside⟩ := exists_innermost compiled atLeaf
  obtain ⟨part, rfl, translated⟩ := exists_leafCondition compiledLeaf applied
  rw [leafCondition_of_direct direct, joinIdColumn_eq_idKey format,
    compileFilter_idKey_suffix plain, ← joinIdColumn_eq_idKey format] at translated
  have names := Operator.names_condition translated
  refine ⟨far, part, farAt, compiledLeaf, inside, translated, names, ?_⟩
  have columns := naming.columnName_tfae (isIdentifier_idKey plain)
  rw [noCapital_idKey] at columns
  rw [names, List.singleton_inj, joinIdColumn_eq_idKey format]
  exact columns

end

/-- A route from users to domains of some name, with one filter on the id there. -/
def toDomain (domain : String) (operator : Operator) (value : Value) : DomainRoute where
  path := ["user", domain]
  filters := [(idKey domain ++ operator.suffix, value)]

/-- The id of a leaf in small letters is compared in the column of the join table. -/
theorem userGroup_idCondition : ∃ part,
    ((toDomain "user_group" .ge (.integer 5)).leafConditions {} "user_group" []).outcome =
      .ok [part] ∧
    part.names = [({} : Naming).joinIdColumn "user_group"] := by
  have small : Small "user_group" := by decide
  have compiled : Succeeds ((toDomain "user_group" .ge (.integer 5)).compile {}).outcome :=
    ⟨_, rfl⟩
  obtain ⟨condition, compiled⟩ := compiled
  obtain ⟨_, part, _, atLeaf, _, _, _, columns⟩ :=
    @idCondition_on_folded_column {} (toDomain "user_group" .ge (.integer 5)) "user_group" .ge
      (.integer 5) condition rfl compiled rfl rfl (by rintro query ⟨⟩)
  exact ⟨part, atLeaf, (columns.out 0 2).mpr (Or.inr small.2)⟩

/-- A filter on the leaf's id is not always about the leaf's column of the join table. -/
theorem capitalGroup_not_on_join_column :
    ¬ ∀ (naming : Naming) (route : DomainRoute) (leaf : String) (operator : Operator)
      (value : Value) (conditions : List Condition),
      naming.tableFormat = "t_\x7b\x7d" → naming.joinTableFormat = "j_\x7b\x7d_and_\x7b\x7d" →
      naming.joinIdFormat = "\x7b\x7d_id" → Succeeds (route.compile naming).outcome →
      route.walk.head? = some leaf →
      route.appliedFilter? leaf = some (naming.joinIdColumn leaf ++ operator.suffix, value) →
      (∀ query, value ≠ .mapping query) →
      (route.leafConditions naming leaf route.interior).outcome = .ok conditions →
      ∀ condition ∈ conditions, condition.names = [naming.joinIdColumn leaf] := by
  intro onJoinColumn
  have named := onJoinColumn {} (toDomain "userGroup" .eq (.integer 5)) "userGroup" .eq
    (.integer 5) _ rfl rfl rfl ⟨_, rfl⟩ rfl rfl (by rintro query ⟨⟩) rfl _ List.mem_cons_self
  revert named
  decide

end DomainRoute

end DomainSql
