import DomainSql.Configuration
import DomainSql.Proofs.Acceptance
import DomainSql.Proofs.TwinRuns

/-!
# Metadata and refusals

Metadata names tables and columns and counts pages. The compiler puts names into
statements and looks at none of them, so under any metadata the same checks are made in
the same order, and a request that is refused is refused for the same reason.

One setting is looked at. A page that does not state its size has the default one, and
no page may have the size zero. A default of zero passes validation, so there are
configurations that refuse a query for no fault of its own. This is the only difference
that metadata makes, because the size of the page is looked at behind everything else.
-/
namespace DomainSql

open Sql

variable {ε α β γ : Type}

/-- Two runs end in the same way: both with a result, or both for the same reason. -/
abbrev EndAlike (left : Except ε α) (right : Except ε β) : Prop :=
  Twins True (fun _ _ => True) left right

namespace EndAlike

/-- A run ends like itself. -/
theorem refl (run : Except ε α) : EndAlike run run :=
  Twins.same.imp fun _ _ _ => trivial

/-- Results may be put into different terms. -/
theorem bind_pure {left : Except ε α} {right : Except ε β} (alike : EndAlike left right)
    {ofLeft : α → γ} {ofRight : β → γ} :
    EndAlike (left >>= fun a => pure (ofLeft a)) (right >>= fun b => pure (ofRight b)) :=
  alike.bind fun _ _ _ => trivial

/-- A list is gone through alike when each of its entries is. -/
theorem mapM {left : α → Except ε β} {right : α → Except ε γ}
    (each : ∀ entry, EndAlike (left entry) (right entry)) (entries : List α) :
    EndAlike (entries.mapM left) (entries.mapM right) := by
  have sameEntries : List.Forall₂ Eq entries entries := List.forall₂_same.mpr fun _ _ => rfl
  have results : Twins True (List.Forall₂ fun _ _ => True) (entries.mapM left)
      (entries.mapM right) := by
    refine Twins.mapM sameEntries ?_
    rintro entry _ rfl
    exact each entry
  exact results.imp fun _ _ _ => trivial

/-- Two runs end alike from either side. -/
theorem symm {left : Except ε α} {right : Except ε β} (alike : EndAlike left right) :
    EndAlike right left := by
  cases left with
  | ok a => cases right <;> exact alike
  | error e =>
    cases right with
    | ok b => exact alike
    | error other => exact fun strict => (alike strict).symm

/-- How runs end that end in the same way. -/
theorem ends {left : Except ε α} {right : Except ε β} (alike : EndAlike left right) :
    (∃ a b, left = .ok a ∧ right = .ok b) ∨ ∃ e, left = .error e ∧ right = .error e := by
  cases left with
  | ok a =>
    cases right with
    | ok b => exact Or.inl ⟨a, b, rfl, rfl⟩
    | error e => exact absurd trivial alike
  | error e =>
    cases right with
    | ok b => exact absurd trivial alike
    | error other =>
      have same : e = other := alike trivial
      exact Or.inr ⟨e, rfl, same ▸ rfl⟩

end EndAlike

/-- The condition of an operator is compiled alike for any two columns. -/
theorem Operator.condition_endAlike (operator : Operator) (column other : ColumnName)
    (key : String) (value : Value) :
    EndAlike (operator.condition column key value) (operator.condition other key value) := by
  cases operator with
  | null | notNull => exact trivial
  | eq | ne | not | gt | ge | lt | le => exact (EndAlike.refl (scalarOf key value)).bind_pure
  | contain | start | end_ | notLike => exact (EndAlike.refl (patternOf key _ value)).bind_pure
  | isIn | notIn => exact (EndAlike.refl (scalarsOf key value)).bind_pure

section
variable (naming other : Naming)

/-- A single condition is refused for its key or its value, never for its column. -/
theorem compileCondition_endAlike (key : String) (value : Value) :
    EndAlike (compileCondition naming key value) (compileCondition other key value) := by
  refine (EndAlike.refl (checkIdentifier key (Operator.resolve key).1)).bind ?_
  intro _ _ _
  exact Operator.condition_endAlike _ _ _ key value

/-- Alternatives are refused for their own reasons. -/
theorem compileAlternatives_endAlike (key : String) (value : Value) :
    EndAlike (compileAlternatives naming key value) (compileAlternatives other key value) := by
  cases value with
  | scalar scalar => exact fun _ => rfl
  | array items => exact fun _ => rfl
  | mapping entries =>
    cases entries with
    | nil => exact fun _ => rfl
    | cons first rest =>
      have each := EndAlike.mapM (fun entry : String × Value =>
        compileCondition_endAlike naming other entry.1 entry.2) (first :: rest)
      exact each.bind_pure

/-- An entry of a filter mapping is refused for its own reasons. -/
theorem compileFilter_endAlike (key : String) (value : Value) :
    EndAlike (compileFilter naming key value) (compileFilter other key value) := by
  unfold compileFilter
  split
  · exact compileAlternatives_endAlike naming other key value
  · exact compileCondition_endAlike naming other key value

/-- Filters are refused for the first entry that is. -/
theorem compileFilters_endAlike (filters : Mapping) :
    EndAlike (compileFilters naming filters) (compileFilters other filters) := by
  unfold compileFilters
  apply EndAlike.mapM
  intro entry
  exact compileFilter_endAlike naming other entry.1 entry.2

namespace DomainRoute
variable (route : DomainRoute)

/-- At the leaf filters are refused for their keys, for how they go together or for what they hold.
-/
theorem leafConditions_endAlike (leaf : String) (interior : List String) :
    EndAlike (route.leafConditions naming leaf interior).outcome
      (route.leafConditions other leaf interior).outcome := by
  have translated (key : String) (value : Value) :
      EndAlike (route.leafCondition naming leaf key value)
        (route.leafCondition other leaf key value) := by
    cases value with
    | scalar scalar => exact compileFilter_endAlike naming other key _
    | array items => exact compileFilter_endAlike naming other key _
    | mapping query => exact (compileFilters_endAlike naming other query).bind_pure
  unfold leafConditions
  cases route.leafFilters leaf interior with
  | nil => exact trivial
  | cons first others =>
    obtain ⟨key, value⟩ := first
    simp only
    split
    · exact EndAlike.refl _
    · simp only [Traced.outcome_bind, Traced.outcome_tell, Traced.outcome_lift,
        Traced.outcome_pure, ok_bind]
      exact (translated key value).bind_pure

/-- The query on a domain in between is refused for what it holds. -/
theorem interiorQuery_endAlike (domain : String) :
    EndAlike (route.interiorQuery naming domain) (route.interiorQuery other domain) := by
  unfold interiorQuery
  cases Mapping.value? route.filters (queryKey domain) with
  | none => exact trivial
  | some value =>
    cases value with
    | scalar scalar => exact EndAlike.refl _
    | array items => exact EndAlike.refl _
    | mapping query => exact (compileFilters_endAlike naming other query).bind_pure

/-- A route is walked alike. The links of its walk have other tables but join the same
domains. -/
theorem compile_endAlike :
    EndAlike (route.compile naming).outcome (route.compile other).outcome := by
  have nears (naming : Naming) (steps : List (String × String)) :
      (steps.map (route.stepLink naming)).map Link.near = steps.map Prod.fst := List.map_map
  unfold compile
  rw [links_eq_walk, links_eq_walk]
  cases route.walk.zip route.walk.tail with
  | nil => exact EndAlike.refl _
  | cons first steps =>
    simp only [List.map_cons, nears]
    refine Twins.bind_outcome (EndAlike.refl route.checkNames) ?_
    intro _ _ _
    refine (leafConditions_endAlike naming other route first.1 _).bind_outcome ?_
    intro _ _ _
    have followed (found others : SubSelect) :
        EndAlike ((steps.map (route.stepLink naming)).foldlM (route.followLink naming) found)
          ((steps.map (route.stepLink other)).foldlM (route.followLink other) others) := by
      rw [List.foldlM_map, List.foldlM_map]
      refine Twins.foldlM ?_ steps trivial
      intro step _ _ _
      exact (interiorQuery_endAlike naming other route step.1).bind_pure
    refine Twins.bind_outcome (followed _ _) ?_
    intro _ _ _
    exact trivial

end DomainRoute

/-- The conditions of a request are refused for its route or its filters. -/
theorem conditions_endAlike (request : Request) :
    EndAlike (request.conditions naming).outcome (request.conditions other).outcome := by
  have routed : EndAlike (request.domainRoute.toList.mapM (DomainRoute.compile naming)).outcome
      (request.domainRoute.toList.mapM (DomainRoute.compile other)).outcome := by
    cases request.domainRoute with
    | none => exact trivial
    | some route =>
      simp only [Option.toList, List.mapM_cons, List.mapM_nil]
      exact (route.compile_endAlike naming other).bind_outcome fun _ _ _ => trivial
  refine routed.bind_outcome ?_
  intro _ _ _
  refine Twins.bind_outcome (compileFilters_endAlike naming other _) ?_
  intro _ _ _
  exact trivial

/-- Which sort texts are refused is a matter of the texts. -/
theorem compileSort_endAlike (sort : Option String) :
    EndAlike (compileSort naming sort) (compileSort other sort) := by
  simp only [compileSort]
  split
  · exact trivial
  · generalize Text.trim (sort.getD "").toList = text
    have together := (@exists_items_iff naming text).trans (@exists_items_iff other text).symm
    cases left : (splitAt ';' text).mapM (sortItem? naming) <;>
      cases right : (splitAt ';' text).mapM (sortItem? other) <;>
      simp_all [EndAlike, Twins]

end

section
variable (left right : Metadata) (request : Request)

/-- The rows of a query in their order, with no window put on them. -/
def compileOrdered (metadata : Metadata) (request : Request) : Traced CompileError Select := do
  let domain ← request.domainName
  let projection ← request.projection
  let conditions ← request.conditions metadata.naming
  let order ← compileSort metadata.naming (request.page.bind PageQuery.sort)
  return { Select.rowsOf (metadata.naming.tableName domain) with projection, conditions, order }

/-- The window of a query, if it asks for a page. -/
def compilePaging (paging : Paging) (request : Request) : Except CompileError Window :=
  match request.page with
  | none => .ok {}
  | some page => compileWindow paging page

/-- The window is put on the rows at the very end. -/
theorem compileSelect_eq_ordered (metadata : Metadata) :
    (compileSelect metadata request).outcome = (do
      let select ← (compileOrdered metadata request).outcome
      let window ← compilePaging metadata.paging request
      return { select with window }) := by
  simp only [compileSelect, compileOrdered, compilePaging, Traced.outcome_bind,
    Traced.outcome_liftM, Traced.outcome_pure]
  cases request.domainName with
  | error reason => rfl
  | ok domain =>
    cases request.projection with
    | error reason => rfl
    | ok projection =>
      cases (request.conditions metadata.naming).outcome with
      | error reason => rfl
      | ok conditions =>
        cases request.page with
        | none => rfl
        | some page =>
          simp only [ok_bind, Option.bind_some, Traced.outcome_bind, Traced.outcome_liftM,
            Traced.outcome_pure]
          cases compileSort metadata.naming page.sort <;> rfl

/-- A query without its page is refused for the domain, the columns, the conditions or the sort
text. -/
theorem compileOrdered_endAlike :
    EndAlike (compileOrdered left request).outcome (compileOrdered right request).outcome := by
  refine Twins.bind_outcome (EndAlike.refl request.domainName) ?_
  intro _ _ _
  refine Twins.bind_outcome (EndAlike.refl request.projection) ?_
  intro _ _ _
  refine (conditions_endAlike left.naming right.naming request).bind_outcome ?_
  intro _ _ _
  refine Twins.bind_outcome (compileSort_endAlike left.naming right.naming _) ?_
  intro _ _ _
  exact trivial

/-- A count and a removal end alike, and so does any other statement that is made of nothing
but the domain and the conditions. -/
theorem compileAbout_endAlike (build : TableName → List Condition → β) :
    EndAlike (compileAbout build left request).outcome
      (compileAbout build right request).outcome := by
  refine Twins.bind_outcome (EndAlike.refl request.domainName) ?_
  intro _ _ _
  refine (conditions_endAlike left.naming right.naming request).bind_outcome ?_
  intro _ _ _
  exact trivial

/-- An insert is refused for its domain or its rows. -/
theorem compileInsert_endAlike :
    EndAlike (compileInsert left request) (compileInsert right request) := by
  unfold compileInsert
  refine Twins.same.bind ?_
  rintro ⟨first, others⟩ _ rfl
  refine (EndAlike.refl request.domainName).bind ?_
  intro _ _ _
  dsimp only
  split
  · exact fun _ => rfl
  · refine (EndAlike.refl ((Mapping.keys first).forM fun key => checkIdentifier key key)).bind ?_
    intro _ _ _
    exact (EndAlike.refl (compileRows (Mapping.keys first) 0 (first :: others))).bind_pure

/-- An update is refused for its assignments, its domain or its conditions. -/
theorem compileUpdate_endAlike :
    EndAlike (compileUpdate left request).outcome (compileUpdate right request).outcome := by
  have assigned (field : String × Value) :
      EndAlike (compileAssignment left.naming field) (compileAssignment right.naming field) := by
    refine (EndAlike.refl (checkIdentifier field.1 field.1)).bind ?_
    intro _ _ _
    exact (EndAlike.refl (scalarOf field.1 field.2)).bind_pure
  unfold compileUpdate
  refine Twins.bind_outcome Twins.same ?_
  rintro ⟨first, others⟩ _ rfl
  dsimp only
  split
  · exact fun _ => rfl
  · have told (events : List Event) :
        EndAlike (Traced.tell events : Traced CompileError Unit).outcome
          (Traced.tell events : Traced CompileError Unit).outcome := trivial
    refine (told _).bind_outcome ?_
    intro _ _ _
    refine Twins.bind_outcome (EndAlike.refl request.domainName) ?_
    intro _ _ _
    refine Twins.bind_outcome (EndAlike.mapM assigned first) ?_
    intro _ _ _
    refine (conditions_endAlike left.naming right.naming request).bind_outcome ?_
    intro _ _ _
    exact trivial

variable {left right request}

/-- If a request is given alike windows, its work is compiled alike. -/
theorem compileWork_endAlike {operation : Operation}
    (paged : operation = .query →
      EndAlike (compilePaging left.paging request) (compilePaging right.paging request)) :
    EndAlike (compileWork left request operation).outcome
      (compileWork right request operation).outcome := by
  cases operation with
  | query =>
    have rows : EndAlike (compileSelect left request).outcome
        (compileSelect right request).outcome := by
      rw [compileSelect_eq_ordered, compileSelect_eq_ordered]
      refine (compileOrdered_endAlike left right request).bind ?_
      intro _ _ _
      exact (paged rfl).bind_pure
    refine rows.bind_outcome ?_
    intro _ _ _
    refine (compileAbout_endAlike left right request Select.countOf).bind_outcome ?_
    intro _ _ _
    exact trivial
  | insert =>
    refine Twins.bind_outcome (compileInsert_endAlike left right request) ?_
    intro _ _ _
    exact trivial
  | update =>
    refine (compileUpdate_endAlike left right request).bind_outcome ?_
    intro _ _ _
    exact trivial
  | delete =>
    refine (compileAbout_endAlike left right request Delete.mk).bind_outcome ?_
    intro _ _ _
    exact trivial

/-- A query of which nothing but the window is refused is refused for its window. -/
theorem compileWork_of_paging_error {error : CompileError}
    (ordered : Succeeds (compileOrdered left request).outcome)
    (refused : compilePaging left.paging request = .error error) :
    (compileWork left request .query).outcome = .error error := by
  obtain ⟨select, done⟩ := ordered
  rw [compileWork, Traced.outcome_bind, compileSelect_eq_ordered, done, ok_bind, refused]
  rfl

/-- A query of which nothing is refused has a count, too. -/
theorem succeeds_compileWork_of_ordered
    (ordered : Succeeds (compileOrdered left request).outcome)
    (paged : Succeeds (compilePaging left.paging request)) :
    Succeeds (compileWork left request .query).outcome := by
  have rows : Succeeds (compileSelect left request).outcome := by
    obtain ⟨select, done⟩ := ordered
    rw [compileSelect_eq_ordered, done, ok_bind]
    exact succeeds_bind_pure.mpr paged
  obtain ⟨domain, wellFormed⟩ := succeeds_compileSelect.mp rows
  rw [compileWork, Traced.succeeds_bind_and fun _ _ => Traced.succeeds_bind_pure]
  exact ⟨rows, succeeds_compileAbout.mpr ⟨domain, wellFormed.conditions⟩⟩

end

/-- A query is refused under some metadata because the default size of pages is zero, and
answered under other metadata. It asks for a page and leaves the size of the page open. -/
structure RefusedForSize (refusing answering : Metadata) (request : Request) : Prop where
  query : request.operation = some Operation.query.name
  unsized : ∃ page, request.page = some page ∧ page.pageSize = none
  zero : refusing.paging.defaultPageSize = 0
  positive : answering.paging.defaultPageSize ≠ 0
  refused : (compile refusing request).outcome = .error .invalidPageSize
  answered : Succeeds (compile answering request).outcome

section
variable {left right : Metadata} {request : Request}

/-- Pages are given alike windows when no page without a size gets the size zero from one
default and another size from the other one. -/
theorem compilePaging_endAlike {ofLeft ofRight : Paging}
    (sized : ∀ page ∈ request.page, page.pageSize = none →
      (ofLeft.defaultPageSize = 0 ↔ ofRight.defaultPageSize = 0)) :
    EndAlike (compilePaging ofLeft request) (compilePaging ofRight request) := by
  unfold compilePaging
  cases paged : request.page with
  | none => exact trivial
  | some page =>
    have together : page.pageSize.getD ofLeft.defaultPageSize = 0 ↔
        page.pageSize.getD ofRight.defaultPageSize = 0 := by
      cases stated : page.pageSize with
      | none => exact sized page paged stated
      | some size => exact Iff.rfl
    simp only [compileWindow, together]
    split
    · exact fun _ => rfl
    · exact trivial

/-- A request of a known operation is compiled when its domain is plain and its work can
be done. -/
theorem compile_eq_work {operation : Operation}
    (kind : request.operationKind = .ok operation) (metadata : Metadata) :
    (compile metadata request).outcome = (do
      let domain ← request.domainName
      let work ← (compileWork metadata request operation).outcome
      return { domain, work }) := by
  simp only [compile, kind, Traced.outcome_bind, Traced.outcome_liftM, Traced.outcome_tell,
    Traced.outcome_pure, ok_bind]
  rfl

/-- A request ends alike when its work does. -/
theorem compile_endAlike_of_work
    (worked : ∀ operation, request.operationKind = .ok operation →
      EndAlike (compileWork left request operation).outcome
        (compileWork right request operation).outcome) :
    EndAlike (compile left request).outcome (compile right request).outcome := by
  cases kind : request.operationKind with
  | error reason =>
    have refused (metadata : Metadata) : (compile metadata request).outcome = .error reason := by
      rw [compile, Traced.outcome_bind, Traced.outcome_liftM, kind]
      rfl
    rw [refused, refused]
    exact fun _ => rfl
  | ok operation =>
    rw [compile_eq_work kind, compile_eq_work kind]
    refine (EndAlike.refl request.domainName).bind ?_
    intro _ _ _
    exact (worked operation kind).bind_pure

/-- A default size of zero changes how a query for a page without a size ends only if
nothing else is wrong with it. -/
theorem endAlike_or_refusedForSize {page : PageQuery} (paged : request.page = some page)
    (unsized : page.pageSize = none) (zero : left.paging.defaultPageSize = 0)
    (positive : right.paging.defaultPageSize ≠ 0) :
    EndAlike (compile left request).outcome (compile right request).outcome ∨
      RefusedForSize left right request := by
  have refused : compilePaging left.paging request = .error .invalidPageSize := by
    simp [compilePaging, paged, compileWindow, unsized, zero]
  have given : Succeeds (compilePaging right.paging request) := by
    simp [compilePaging, paged, compileWindow, unsized, positive]
  by_cases query : request.operationKind = .ok .query
  · cases named : request.domainName with
    | error reason =>
      left
      rw [compile_eq_work query, compile_eq_work query, named]
      exact fun _ => rfl
    | ok domain =>
      rcases (compileOrdered_endAlike left right request).ends with
        ⟨select, other, ofLeft, ofRight⟩ | ⟨error, ofLeft, ofRight⟩
      · right
        refine ⟨operationKind_eq_ok.mp query, ⟨page, paged, unsized⟩, zero, positive, ?_, ?_⟩
        · rw [compile_eq_work query, named, compileWork_of_paging_error ⟨select, ofLeft⟩ refused]
          rfl
        · rw [compile_eq_work query, named, ok_bind, succeeds_bind_pure]
          exact succeeds_compileWork_of_ordered ⟨other, ofRight⟩ given
      · left
        have failed {metadata : Metadata}
            (failing : (compileOrdered metadata request).outcome = .error error) :
            (compile metadata request).outcome = .error error := by
          rw [compile_eq_work query, named, ok_bind, compileWork, Traced.outcome_bind,
            compileSelect_eq_ordered, failing]
          rfl
        rw [failed ofLeft, failed ofRight]
        exact fun _ => rfl
  · left
    apply compile_endAlike_of_work
    intro operation kind
    apply compileWork_endAlike
    rintro rfl
    exact absurd kind query

/-- Metadata makes no difference to whether a request is compiled and to the error it
gets, with one exception: a query for a page of no stated size is refused where the
default size is zero.

The metadata does not have to be valid for this. -/
theorem alike_or_refusedForSize (left right : Metadata) (request : Request) :
    (∃ plan other, (compile left request).outcome = .ok plan ∧
      (compile right request).outcome = .ok other) ∨
    (∃ error, (compile left request).outcome = .error error ∧
      (compile right request).outcome = .error error) ∨
    RefusedForSize left right request ∨ RefusedForSize right left request := by
  have alikeOrNot : EndAlike (compile left request).outcome (compile right request).outcome ∨
      RefusedForSize left right request ∨ RefusedForSize right left request := by
    by_cases sized : ∀ page ∈ request.page, page.pageSize = none →
        (left.paging.defaultPageSize = 0 ↔ right.paging.defaultPageSize = 0)
    · left
      apply compile_endAlike_of_work
      intro operation _
      exact compileWork_endAlike fun _ => compilePaging_endAlike sized
    · push Not at sized
      obtain ⟨page, paged, unsized, ⟨zero, positive⟩ | ⟨positive, zero⟩⟩ := sized
      · exact (endAlike_or_refusedForSize paged unsized zero positive).imp_right Or.inl
      · exact (endAlike_or_refusedForSize paged unsized zero positive).imp EndAlike.symm Or.inr
  rcases alikeOrNot with alike | refused
  · exact alike.ends.imp_right Or.inl
  · exact Or.inr (Or.inr refused)

end

/-- A query for the first page of users, of no stated size. -/
def firstPageOfUsers : Request where
  operation := some "query"
  domain := some "user"
  page := some {}

/-- A configuration whose pages have the default size zero. -/
def zeroSized : Configuration where
  metadata := { paging := { defaultPageSize := 0 } }

/-- Two valid configurations that differ in the default size of pages: the first one
refuses what the second one answers. -/
theorem firstPageOfUsers_refusedForSize :
    zeroSized.validate = .ok zeroSized.metadata ∧
      ({} : Configuration).validate = .ok ({} : Configuration).metadata ∧
      RefusedForSize zeroSized.metadata ({} : Configuration).metadata firstPageOfUsers :=
  ⟨rfl, rfl, rfl, ⟨{}, rfl, rfl⟩, rfl, by decide, rfl, ⟨_, rfl⟩⟩

end DomainSql
