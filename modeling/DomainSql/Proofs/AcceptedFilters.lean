import DomainSql.Proofs.WellFormed
import Mathlib.Data.Set.List

/-!
# Which filters and routes compile

Every function that compiles filters is told by what has to hold for it to give a
result, from the values of operators up to whole routes. Where two functions follow
each other, the second one's check does not depend on what the first one gives, so the
checks of the two are a conjunction.
-/
namespace DomainSql

open Sql

/-- A name passes its check when it is plain. -/
theorem succeeds_checkIdentifier {key name : String} :
    Succeeds (checkIdentifier key name) ↔ isIdentifier name = true := by
  unfold checkIdentifier
  split <;> simp_all

/-- A comparison takes scalars. -/
theorem succeeds_scalarOf {key : String} {value : Value} :
    Succeeds (scalarOf key value) ↔ ∃ scalar, value = .scalar scalar := by
  cases value <;> simp [scalarOf]

/-- A list of scalars, told by its items. -/
theorem forall_mem_scalar_iff {items : List Value} :
    (∀ item ∈ items, ∃ scalar, item = .scalar scalar) ↔
      ∃ scalars : List Scalar, items = scalars.map .scalar := by
  constructor
  · intro each
    have image : items ∈ Set.range (List.map Value.scalar) := by
      rw [Set.range_list_map]
      intro item listed
      obtain ⟨scalar, rfl⟩ := each item listed
      exact ⟨scalar, rfl⟩
    obtain ⟨scalars, same⟩ := image
    exact ⟨scalars, same.symm⟩
  · rintro ⟨scalars, rfl⟩ item listed
    obtain ⟨scalar, _, rfl⟩ := List.mem_map.mp listed
    exact ⟨scalar, rfl⟩

/-- A membership test takes arrays of scalars that are not empty. -/
theorem succeeds_scalarsOf {key : String} {value : Value} :
    Succeeds (scalarsOf key value) ↔
      ∃ scalars : List Scalar, scalars ≠ [] ∧ value = .array (scalars.map .scalar) := by
  cases value with
  | scalar scalar => simp [scalarsOf]
  | mapping entries => simp [scalarsOf]
  | array items =>
    cases items with
    | nil =>
      simp only [scalarsOf, not_succeeds_error, false_iff, Value.array.injEq]
      rintro ⟨scalars, notEmpty, none⟩
      exact notEmpty (List.map_eq_nil_iff.mp none.symm)
    | cons first rest =>
      rw [scalarsOf, succeeds_mapM]
      · simp only [succeeds_scalarOf, forall_mem_scalar_iff, Value.array.injEq]
        constructor
        · rintro ⟨scalars, same⟩
          refine ⟨scalars, ?_, same⟩
          rintro rfl
          cases same
        · rintro ⟨scalars, _, same⟩
          exact ⟨scalars, same⟩
      · simp

/-- A search takes every scalar that has a text, which is every one but null. -/
theorem succeeds_patternOf {key : String} {wildcards : Wildcards} {value : Value} :
    Succeeds (patternOf key wildcards value) ↔
      ∃ scalar, scalar ≠ .null ∧ value = .scalar scalar := by
  cases value with
  | scalar scalar =>
    cases scalar with
    | bool value => cases value <;> simp [patternOf, searchText?]
    | _ => simp [patternOf, searchText?]
  | array items => simp [patternOf]
  | mapping entries => simp [patternOf]

/-- An operator gives a condition exactly for the values that it takes. -/
theorem Operator.succeeds_condition {operator : Operator} {column : ColumnName} {key : String}
    {value : Value} :
    Succeeds (operator.condition column key value) ↔ operator.Takes value := by
  cases operator with
  | eq | ne | not | gt | ge | lt | le => exact succeeds_bind_pure.trans succeeds_scalarOf
  | contain | start | end_ | notLike => exact succeeds_bind_pure.trans succeeds_patternOf
  | isIn | notIn => exact succeeds_bind_pure.trans succeeds_scalarsOf
  | null | notNull => exact iff_of_true (succeeds_ok _) trivial

section
variable {naming : Naming}

/-- A single condition compiles when its field is plain and its operator takes its value. -/
theorem succeeds_compileCondition {entry : String × Value} :
    Succeeds (compileCondition naming entry.1 entry.2) ↔ WellFormedCondition entry := by
  unfold compileCondition WellFormedCondition
  rw [← @succeeds_checkIdentifier entry.1]
  exact succeeds_bind_and fun _ _ => Operator.succeeds_condition

/-- Alternatives compile when there is one at least and each of them does. -/
theorem succeeds_compileAlternatives {key : String} {value : Value} :
    Succeeds (compileAlternatives naming key value) ↔
      ∃ alternatives, alternatives ≠ [] ∧ value = .mapping alternatives ∧
        ∀ alternative ∈ alternatives, WellFormedCondition alternative := by
  cases value with
  | scalar scalar => simp [compileAlternatives]
  | array items => simp [compileAlternatives]
  | mapping entries =>
    cases entries with
    | nil => simp [compileAlternatives]
    | cons first rest =>
      rw [compileAlternatives, succeeds_bind_pure, succeeds_mapM]
      · simp only [succeeds_compileCondition]
        constructor
        · intro each
          exact ⟨_, List.cons_ne_nil first rest, rfl, each⟩
        · rintro ⟨_, _, ⟨⟩, each⟩
          exact each
      · simp

/-- What stands before a suffix can be told when the text ends with it. -/
theorem isSome_beforeSuffix? {suffix text : String} :
    (beforeSuffix? suffix text).isSome = true ↔ suffix.toList <:+ text.toList := by
  rw [← List.isSuffixOf_iff_suffix, beforeSuffix?]
  split <;> simp_all

/-- An entry of a filter mapping compiles when it is well-formed. -/
theorem succeeds_compileFilter {entry : String × Value} :
    Succeeds (compileFilter naming entry.1 entry.2) ↔ WellFormedFilter entry := by
  simp only [compileFilter, WellFormedFilter, isSome_beforeSuffix?]
  split
  · exact succeeds_compileAlternatives
  · exact succeeds_compileCondition

/-- A filter mapping compiles when every entry does. -/
theorem succeeds_compileFilters {filters : Mapping} :
    Succeeds (compileFilters naming filters) ↔ WellFormedFilters filters := by
  unfold compileFilters WellFormedFilters
  rw [succeeds_mapM]
  exact forall₂_congr fun _ _ => succeeds_compileFilter

end

namespace DomainRoute

variable {naming : Naming} {route : DomainRoute}

/-- A route with less than two domains has no link. -/
theorem links_eq_nil_iff : route.links naming = [] ↔ route.path.length < 2 := by
  have length : route.walk.length = route.path.length := by
    unfold walk
    split <;> simp
  rw [links_eq_walk, List.map_eq_nil_iff, ← List.length_eq_zero_iff, List.length_zip,
    List.length_tail, ← length]
  omega

/-- The filter at the leaf compiles when it is well-formed as what its value makes it: a query on
the leaf or a filter on the join table. -/
theorem succeeds_leafCondition {leaf : String} {entry : String × Value} :
    Succeeds (route.leafCondition naming leaf entry.1 entry.2) ↔ WellFormedLeafFilter entry := by
  obtain ⟨key, value⟩ := entry
  cases value with
  | mapping query => exact succeeds_bind_pure.trans succeeds_compileFilters
  | scalar scalar => exact @succeeds_compileFilter naming (key, .scalar scalar)
  | array items => exact @succeeds_compileFilter naming (key, .array items)

/-- There are conditions at the leaf when the filters on it go together and the first
of them is well-formed. -/
theorem succeeds_leafConditions {leaf : String} {interior : List String} :
    Succeeds (route.leafConditions naming leaf interior).outcome ↔
      (∀ entry ∈ route.leafFilters leaf interior, ∀ other ∈ route.leafFilters leaf interior,
        (other.1 = queryKey leaf ↔ entry.1 = queryKey leaf)) ∧
      ∀ entry ∈ (route.leafFilters leaf interior).head?, WellFormedLeafFilter entry := by
  simp only [Succeeds, leafConditions_eq_ok]
  cases found : route.leafFilters leaf interior with
  | nil => simp
  | cons first others =>
    obtain ⟨key, value⟩ := first
    rw [List.head?_cons]
    simp only [Option.mem_some_iff, forall_eq', ← @succeeds_leafCondition naming route leaf]
    constructor
    · rintro ⟨_, ⟨impossible, _⟩ | ⟨_, _, _, condition, same, agree, compiled, _⟩⟩
      · cases impossible
      · obtain ⟨⟨⟩, rfl⟩ := List.cons.inj same
        have toFirst : ∀ entry ∈ (key, value) :: others,
            (entry.1 = queryKey leaf ↔ key = queryKey leaf) :=
          List.forall_mem_cons.mpr ⟨Iff.rfl, agree⟩
        exact ⟨fun entry listed other alsoListed =>
          (toFirst other alsoListed).trans (toFirst entry listed).symm, condition, compiled⟩
    · rintro ⟨agree, condition, compiled⟩
      refine ⟨_, Or.inr ⟨key, value, others, condition, rfl, ?_, compiled, rfl⟩⟩
      intro entry listed
      exact agree _ List.mem_cons_self entry (List.mem_cons_of_mem _ listed)

/-- The query on a domain in between compiles when it is absent or a mapping of filters. -/
theorem succeeds_interiorQuery {domain : String} :
    Succeeds (route.interiorQuery naming domain) ↔
      ∀ value ∈ Mapping.value? route.filters (queryKey domain),
        ∃ query, value = .mapping query ∧ WellFormedFilters query := by
  unfold interiorQuery
  cases Mapping.value? route.filters (queryKey domain) with
  | none => simp
  | some value =>
    cases value with
    | scalar scalar => simp
    | array items => simp
    | mapping query => simpa using succeeds_bind_pure.trans succeeds_compileFilters

/-- The sub-selects of links can be put around one another when the query on each near
domain can be compiled, whatever they are put around. -/
theorem succeeds_foldlM_followLink {found : SubSelect} {links : List Link} :
    Succeeds (links.foldlM (route.followLink naming) found) ↔
      ∀ link ∈ links, Succeeds (route.interiorQuery naming link.near) := by
  induction links generalizing found with
  | nil => simp
  | cons link rest ih =>
    rw [List.foldlM_cons, succeeds_bind_and fun _ _ => ih, List.forall_mem_cons]
    exact and_congr_left' succeeds_bind_pure

/-- A route that has links compiles when its names are plain, its filters on the leaf can
be applied and the queries on the domains in between can be compiled. -/
theorem succeeds_compile_of_links {first : Link} {others : List Link}
    (steps : route.links naming = first :: others) :
    Succeeds (route.compile naming).outcome ↔
      route.checkNames = .ok () ∧
      Succeeds (route.leafConditions naming first.near route.interior).outcome ∧
      ∀ domain ∈ route.interior, Succeeds (route.interiorQuery naming domain) := by
  -- the compiler asks for the queries link by link
  have queries : (∀ domain ∈ route.interior, Succeeds (route.interiorQuery naming domain)) ↔
      ∀ link ∈ others, Succeeds (route.interiorQuery naming link.near) := by
    rw [← nears_eq_interior steps, List.forall_mem_map]
  rw [queries]
  constructor
  · rintro ⟨_, compiled⟩
    obtain ⟨_, _, conditions, outermost, same, checked, atLeaf, followed, _⟩ :=
      compile_eq_ok.mp compiled
    obtain ⟨rfl, rfl⟩ := List.cons.inj (steps.symm.trans same)
    exact ⟨checked, ⟨conditions, atLeaf⟩, succeeds_foldlM_followLink.mp ⟨outermost, followed⟩⟩
  · rintro ⟨checked, ⟨conditions, atLeaf⟩, compiledQueries⟩
    obtain ⟨outermost, followed⟩ := succeeds_foldlM_followLink.mpr compiledQueries
    exact ⟨_, compile_eq_ok.mpr
      ⟨first, others, conditions, outermost, steps, checked, atLeaf, followed, rfl⟩⟩

/-- Exactly the well-formed routes compile. -/
theorem succeeds_compile : Succeeds (route.compile naming).outcome ↔ route.WellFormed := by
  cases steps : route.links naming with
  | nil =>
    have short := links_eq_nil_iff.mp steps
    have refused : (route.compile naming).outcome = .error .routeTooShort := by
      unfold compile
      rw [steps]
      rfl
    rw [refused]
    refine iff_of_false (not_succeeds_error _) fun wellFormed => ?_
    exact absurd wellFormed.long (by omega)
  | cons first others =>
    have long : 2 ≤ route.path.length := by
      have someLink := mt links_eq_nil_iff.mpr (steps ▸ List.cons_ne_nil first others)
      omega
    have leaf := head?_walk steps
    rw [succeeds_compile_of_links steps, checkNames_eq_ok, succeeds_leafConditions]
    simp only [succeeds_interiorQuery]
    constructor
    · rintro ⟨⟨path, column⟩, ⟨agree, applied⟩, queries⟩
      exact ⟨long, path, column, by simpa [leaf] using agree, by simpa [leaf] using applied,
        queries⟩
    · intro wellFormed
      exact ⟨⟨wellFormed.path, wellFormed.lastDomainIdColumn⟩,
        ⟨wellFormed.agree _ leaf, wellFormed.applied _ leaf⟩, wellFormed.queries⟩

end DomainRoute

end DomainSql
