import DomainSql.Plan
import DomainSql.Proofs.Outlines
import DomainSql.Proofs.RouteWalk
import DomainSql.Proofs.TwinRuns

/-!
# Values stay out of the text

Two requests of the same shape are compiled side by side. Every choice of the
compiler is made by a key, by a length, or by whether a value is a scalar, an array
or a mapping, so both runs stay close: where both succeed their statements differ in
their arguments only. One check looks at a scalar itself, the one that a search is
not for null. When the requests have null at the same places it decides alike too,
and then the runs succeed or fail together. An error names keys and names, which the
requests share, and no value.

Each function of the compiler has one lemma here, for any mask. The comparison may
be strict when the mask shows what is null.
-/
namespace DomainSql

open Sql

variable {mask : Scalar → Scalar} {strict : Prop}

/-- Whether a value is a scalar does not depend on which one it is. -/
theorem scalarOf_twins {key : String} {left right : Value} (alike : left.Alike mask right) :
    Twins strict (fun _ _ => True) (scalarOf key left) (scalarOf key right) := by
  rcases alike.kinds with ⟨_, _, rfl, rfl, _⟩ | ⟨_, _, rfl, rfl, _⟩ | ⟨_, _, rfl, rfl, _⟩
  · exact trivial
  · exact fun _ => rfl
  · exact fun _ => rfl

/-- Whether a value is an array of scalars, and of how many, does not depend on them. -/
theorem scalarsOf_twins {key : String} {left right : Value} (alike : left.Alike mask right) :
    Twins strict (fun a b => a.length = b.length) (scalarsOf key left) (scalarsOf key right) := by
  rcases alike.kinds with ⟨_, _, rfl, rfl, _⟩ | ⟨_, _, rfl, rfl, items⟩ | ⟨_, _, rfl, rfl, _⟩
  · exact fun _ => rfl
  · cases items with
    | nil => exact fun _ => rfl
    | cons first rest =>
      refine (Twins.mapM (.cons first rest) fun _ _ => scalarOf_twins).imp ?_
      exact fun _ _ => List.Forall₂.length_eq
  · exact fun _ => rfl

/-- Null is the one scalar without a text to search for. -/
theorem searchText?_eq_none_iff {scalar : Scalar} : searchText? scalar = none ↔ scalar = .null := by
  cases scalar with
  | bool value => cases value <;> simp [searchText?]
  | _ => simp [searchText?]

/-- The domain of a request does not depend on its values. -/
theorem Request.Alike.domainName_eq {left right : Request} (alike : left.Alike mask right) :
    right.domainName = left.domainName := by
  unfold Request.domainName
  rw [alike.domain]

/-- Nor do the columns that it asks for. -/
theorem Request.Alike.projection_eq {left right : Request} (alike : left.Alike mask right) :
    right.projection = left.projection := by
  unfold Request.projection
  rw [alike.columns]

/-- Nor does its operation. -/
theorem Request.Alike.operationKind_eq {left right : Request} (alike : left.Alike mask right) :
    right.operationKind = left.operationKind := by
  unfold Request.operationKind
  rw [alike.operation]

/-- The rows of alike requests are there for both or for none, and have alike entries
one by one. -/
theorem rows_twins {left right : Request} (alike : left.Alike mask right) :
    Twins strict (fun a b => List.Forall₂ (EntryAlike mask) a.1 b.1 ∧
        List.Forall₂ (List.Forall₂ (EntryAlike mask)) a.2 b.2) left.rows right.rows := by
  have data := alike.data
  unfold Request.rows
  generalize left.data = ofLeft at data ⊢
  generalize right.data = ofRight at data ⊢
  cases data with
  | none => exact fun _ => rfl
  | some rows =>
    cases rows with
    | nil => exact fun _ => rfl
    | cons first rest => exact ⟨first, rest⟩

/-- Assignments to one column stay close: their values are arguments. -/
theorem compileAssignment_twins (naming : Naming) {left right : String × Value}
    (alike : EntryAlike mask left right) :
    Twins strict (fun a b => a.1 = b.1) (compileAssignment naming left)
      (compileAssignment naming right) := by
  obtain ⟨key, value⟩ := left
  obtain ⟨_, other⟩ := right
  obtain ⟨rfl, valueAlike⟩ := alike
  refine Twins.same.bind ?_
  rintro _ _ rfl
  refine (scalarOf_twins valueAlike).bind ?_
  intro _ _ _
  exact rfl

/-- A row has a value for a key when the other one has. -/
theorem cellOf_twins (index : Nat) (key : String) {left right : Row}
    (alike : List.Forall₂ (EntryAlike mask) left right) :
    Twins strict (fun _ _ => True) (cellOf index left key) (cellOf index right key) := by
  have found := EntryAlike.value? key alike
  unfold cellOf
  generalize Mapping.value? left key = ofLeft at found ⊢
  generalize Mapping.value? right key = ofRight at found ⊢
  cases found with
  | none => exact fun _ => rfl
  | some valueAlike => exact scalarOf_twins valueAlike

/-- Rows with the same keys stay close: they have as many cells. -/
theorem compileRow_twins (keys : List String) (index : Nat) {left right : Row}
    (alike : List.Forall₂ (EntryAlike mask) left right) :
    Twins strict (fun a b => a.length = b.length) (compileRow keys index left)
      (compileRow keys index right) := by
  have isEmpty : left.isEmpty = right.isEmpty := by cases alike <;> rfl
  have cells : Twins strict (List.Forall₂ fun _ _ => True) (keys.mapM (cellOf index left))
      (keys.mapM (cellOf index right)) := by
    have sameKeys : List.Forall₂ Eq keys keys := List.forall₂_same.mpr fun _ _ => rfl
    refine Twins.mapM sameKeys ?_
    rintro key _ rfl
    exact cellOf_twins index key alike
  unfold compileRow
  rw [isEmpty, alike.length_eq]
  split
  · exact fun _ => rfl
  · split
    · exact fun _ => rfl
    · exact cells.imp fun _ _ => List.Forall₂.length_eq

/-- Rows stay close one by one. -/
theorem compileRows_twins (keys : List String) (index : Nat) {left right : List Row}
    (alike : List.Forall₂ (List.Forall₂ (EntryAlike mask)) left right) :
    Twins strict (List.Forall₂ fun a b => a.length = b.length) (compileRows keys index left)
      (compileRows keys index right) := by
  induction alike generalizing index with
  | nil => exact List.Forall₂.nil
  | cons row _ ih =>
    simp only [compileRows]
    refine (compileRow_twins keys index row).bind ?_
    intro _ _ asLong
    refine (ih (index + 1)).bind ?_
    intro _ _ others
    exact .cons asLong others

/-- Inserts of alike rows differ in values only. -/
theorem compileInsert_twins (metadata : Metadata) {left right : Request}
    (alike : left.Alike mask right) :
    Twins strict (fun a b => (Statement.insert a).SameOutline (.insert b))
      (compileInsert metadata left) (compileInsert metadata right) := by
  unfold compileInsert
  rw [alike.domainName_eq]
  refine (rows_twins alike).bind ?_
  rintro ⟨first, others⟩ ⟨first', others'⟩ ⟨alikeFirst, alikeOthers⟩
  have isEmpty : first.isEmpty = first'.isEmpty := by cases alikeFirst <;> rfl
  refine Twins.same.bind ?_
  rintro domain _ rfl
  simp only [← isEmpty, ← EntryAlike.keys alikeFirst]
  split
  · exact fun _ => rfl
  · refine Twins.same.bind ?_
    rintro _ _ rfl
    refine (compileRows_twins _ 0 (.cons alikeFirst alikeOthers)).bind ?_
    intro _ _ asLong
    exact Statement.sameOutline_insert asLong

section
variable (faithful : strict → ∀ a b, mask a = mask b → (a = .null ↔ b = .null))
include faithful

/-- A search is refused for null and for nothing else among the scalars, which is
why a strict comparison has to know what is null. -/
theorem patternOf_twins {key : String} {wildcards : Wildcards} {left right : Value}
    (alike : left.Alike mask right) :
    Twins strict (fun _ _ => True) (patternOf key wildcards left)
      (patternOf key wildcards right) := by
  rcases alike.kinds with ⟨a, b, rfl, rfl, same⟩ | ⟨_, _, rfl, rfl, _⟩ | ⟨_, _, rfl, rfl, _⟩
  · have together (isStrict : strict) : searchText? a = none ↔ searchText? b = none := by
      rw [searchText?_eq_none_iff, searchText?_eq_none_iff]
      exact faithful isStrict a b same
    unfold patternOf
    cases ofLeft : searchText? a <;> cases ofRight : searchText? b <;>
      simp_all [Twins]
  · exact fun _ => rfl
  · exact fun _ => rfl

/-- The condition of an operator reads its values and goes on in the same way
whatever they are. -/
theorem Operator.condition_twins (operator : Operator) {column : ColumnName} {key : String}
    {left right : Value} (alike : left.Alike mask right) :
    Twins strict Condition.SameOutline (operator.condition column key left)
      (operator.condition column key right) := by
  have compared {relation : Comparison} {ofLeft ofRight : Except CompileError Scalar}
      (taken : Twins strict (fun _ _ => True) ofLeft ofRight) :
      Twins strict Condition.SameOutline
        (do return .compare column relation (← ofLeft))
        (do return .compare column relation (← ofRight)) :=
    taken.bind fun _ _ _ => rfl
  have listed {test : Membership} :
      Twins strict Condition.SameOutline
        (do return .member column test (← scalarsOf key left))
        (do return .member column test (← scalarsOf key right)) := by
    refine (scalarsOf_twins alike).bind ?_
    intro values others asMany
    show outline _ = outline _
    simp [Condition.render, outline_valueList asMany]
  cases operator with
  | eq | ne | not | gt | ge | lt | le => exact compared (scalarOf_twins alike)
  | contain | start | end_ | notLike => exact compared (patternOf_twins faithful alike)
  | isIn | notIn => exact listed
  | null | notNull => exact (rfl : outline _ = outline _)

/-- Conditions under one key differ in values only, once both are compiled. -/
theorem compileCondition_twins (naming : Naming) {left right : String × Value}
    (alike : EntryAlike mask left right) :
    Twins strict Condition.SameOutline (compileCondition naming left.1 left.2)
      (compileCondition naming right.1 right.2) := by
  obtain ⟨sameKey, valueAlike⟩ := alike
  simp only [compileCondition, ← sameKey]
  refine Twins.same.bind ?_
  rintro _ _ rfl
  exact Operator.condition_twins faithful _ valueAlike

/-- Alternatives differ in values only, one by one. -/
theorem compileAlternatives_twins (naming : Naming) {key : String} {left right : Value}
    (alike : left.Alike mask right) :
    Twins strict Condition.SameOutline (compileAlternatives naming key left)
      (compileAlternatives naming key right) := by
  rcases alike.kinds with ⟨_, _, rfl, rfl, _⟩ | ⟨_, _, rfl, rfl, _⟩ | ⟨_, _, rfl, rfl, entries⟩
  · exact fun _ => rfl
  · exact fun _ => rfl
  · cases entries with
    | nil => exact fun _ => rfl
    | cons first rest =>
      refine Twins.bind (Twins.mapM (.cons first rest) fun _ _ =>
        compileCondition_twins faithful naming) ?_
      intro _ _ same
      exact Condition.sameOutline_anyOf same

/-- Entries under one key differ in values only, alternatives included: the key alone decides which
they are. -/
theorem compileFilter_twins (naming : Naming) {left right : String × Value}
    (alike : EntryAlike mask left right) :
    Twins strict Condition.SameOutline (compileFilter naming left.1 left.2)
      (compileFilter naming right.1 right.2) := by
  simp only [compileFilter, ← alike.1]
  split
  · exact compileAlternatives_twins faithful naming alike.2
  · have asIs := compileCondition_twins faithful naming alike
    rwa [← alike.1] at asIs

/-- Filters differ in values only, entry by entry. -/
theorem compileFilters_twins (naming : Naming) {left right : Mapping}
    (alike : List.Forall₂ (EntryAlike mask) left right) :
    Twins strict (List.Forall₂ Condition.SameOutline) (compileFilters naming left)
      (compileFilters naming right) :=
  Twins.mapM alike fun _ _ => compileFilter_twins faithful naming

namespace DomainRoute
variable {route : DomainRoute} {filters : Mapping}

/-- What a leaf filter becomes depends on the kind of its value, which alike values
share. -/
theorem leafCondition_twins (naming : Naming) {leaf key : String} {left right : Value}
    (alike : left.Alike mask right) :
    Twins strict Condition.SameOutline (route.leafCondition naming leaf key left)
      ({ route with filters }.leafCondition naming leaf key right) := by
  have sameKey : EntryAlike mask (key, left) (key, right) := ⟨rfl, alike⟩
  have direct := compileFilter_twins faithful naming sameKey
  rcases alike.kinds with ⟨_, _, rfl, rfl, _⟩ | ⟨_, _, rfl, rfl, _⟩ | ⟨_, _, rfl, rfl, entries⟩
  · simpa only [leafCondition] using direct
  · simpa only [leafCondition] using direct
  · simp only [leafCondition]
    refine (compileFilters_twins faithful naming entries).bind ?_
    intro _ _ same
    exact Condition.sameOutline_inSelects (.cons (SubSelect.sameOutline_select same) .nil)

variable (alike : List.Forall₂ (EntryAlike mask) route.filters filters)
include alike

/-- At the leaf the filter that applies is chosen by its key, and so it is the same one in both
routes. -/
theorem leafConditions_twins (naming : Naming) (leaf : String) (interior : List String) :
    Twins strict (List.Forall₂ Condition.SameOutline)
      (route.leafConditions naming leaf interior).outcome
      ({ route with filters }.leafConditions naming leaf interior).outcome := by
  have chosen : List.Forall₂ (EntryAlike mask) (route.leafFilters leaf interior)
      ({ route with filters }.leafFilters leaf interior) :=
    EntryAlike.filter (fun key => startsWith key leaf && !isInteriorQuery interior key) alike
  unfold leafConditions
  generalize route.leafFilters leaf interior = ofRoute at chosen
  generalize { route with filters }.leafFilters leaf interior = ofOther at chosen
  cases chosen with
  | nil => exact List.Forall₂.nil
  | @cons first second rest others same remaining =>
    obtain ⟨key, value⟩ := first
    obtain ⟨_, other⟩ := second
    obtain ⟨rfl, valueAlike⟩ := same
    have conflict := EntryAlike.find?
      (fun name => decide (name = queryKey leaf) != decide (key = queryKey leaf)) remaining
    simp only
    generalize rest.find? _ = ofRest at conflict ⊢
    generalize others.find? _ = ofOthers at conflict ⊢
    cases conflict with
    | none =>
      have told (first second : List Event) : Twins strict (fun _ _ => True)
          (Traced.tell first : Traced CompileError Unit).outcome
          (Traced.tell second).outcome := trivial
      refine (told _ _).bind_outcome ?_
      intro _ _ _
      refine Twins.bind_outcome (leafCondition_twins faithful naming valueAlike) ?_
      intro _ _ same
      exact .cons same .nil
    | some unlike => exact fun _ => by rw [unlike.1]

/-- The query on a domain in between is found by its key. -/
theorem interiorQuery_twins (naming : Naming) (domain : String) :
    Twins strict (List.Forall₂ SubSelect.SameOutline) (route.interiorQuery naming domain)
      ({ route with filters }.interiorQuery naming domain) := by
  have found := EntryAlike.value? (queryKey domain) alike
  unfold interiorQuery
  simp only
  generalize Mapping.value? route.filters (queryKey domain) = ofRoute at found ⊢
  generalize Mapping.value? filters (queryKey domain) = ofOther at found ⊢
  cases found with
  | none => exact List.Forall₂.nil
  | some valueAlike =>
    rcases valueAlike.kinds with
      ⟨_, _, rfl, rfl, _⟩ | ⟨_, _, rfl, rfl, _⟩ | ⟨_, _, rfl, rfl, entries⟩
    · exact fun _ => rfl
    · exact fun _ => rfl
    · refine (compileFilters_twins faithful naming entries).bind ?_
      intro _ _ same
      exact .cons (SubSelect.sameOutline_select same) .nil

/-- Following a link adds the same tables and columns to both sub-selects. -/
theorem followLink_twins (naming : Naming) (link : Link) {left right : SubSelect}
    (same : left.SameOutline right) :
    Twins strict SubSelect.SameOutline (route.followLink naming left link)
      ({ route with filters }.followLink naming right link) := by
  refine (interiorQuery_twins faithful alike naming link.near).bind ?_
  intro queries others sameQueries
  apply SubSelect.sameOutline_select
  refine .cons (Condition.sameOutline_inSelects ?_) .nil
  exact List.rel_append sameQueries (.cons same .nil)

/-- Alike routes compile to conditions that differ in values only. -/
theorem compile_twins (naming : Naming) :
    Twins strict Condition.SameOutline (route.compile naming).outcome
      ({ route with filters }.compile naming).outcome := by
  have steps : { route with filters }.links naming = route.links naming := rfl
  unfold compile
  rw [steps]
  cases route.links naming with
  | nil => exact fun _ => rfl
  | cons first others =>
    have checked : Twins strict Eq (Traced.lift route.checkNames).outcome
        (Traced.lift { route with filters }.checkNames).outcome := Twins.same
    refine checked.bind_outcome ?_
    rintro _ _ rfl
    refine (leafConditions_twins faithful alike naming _ _).bind_outcome ?_
    intro _ _ sameConditions
    have steps (link : Link) (left right : SubSelect) (same : left.SameOutline right) :=
      followLink_twins faithful alike naming link same
    refine Twins.bind_outcome
      (Twins.foldlM steps others (SubSelect.sameOutline_select sameConditions)) ?_
    intro _ _ same
    exact Condition.sameOutline_inSelects (.cons same .nil)

end DomainRoute

/-- The conditions of alike requests differ in their values only. -/
theorem conditions_twins (naming : Naming) {left right : Request} (alike : left.Alike mask right) :
    Twins strict (List.Forall₂ Condition.SameOutline) (left.conditions naming).outcome
      (right.conditions naming).outcome := by
  have routed : Twins strict (List.Forall₂ Condition.SameOutline)
      (left.domainRoute.toList.mapM (DomainRoute.compile naming)).outcome
      (right.domainRoute.toList.mapM (DomainRoute.compile naming)).outcome := by
    have routes := alike.domainRoute
    generalize left.domainRoute = ofLeft at routes ⊢
    generalize right.domainRoute = ofRight at routes ⊢
    cases routes with
    | none => exact List.Forall₂.nil
    | some sameRoute =>
      obtain ⟨filters, rfl, alikeFilters⟩ := sameRoute
      simp only [Option.toList, List.mapM_cons, List.mapM_nil]
      refine (DomainRoute.compile_twins faithful alikeFilters naming).bind_outcome ?_
      intro _ _ same
      exact .cons same .nil
  have filtered :
      List.Forall₂ (EntryAlike mask) (left.filters.getD []) (right.filters.getD []) := by
    have filters := alike.filters
    generalize left.filters = ofLeft at filters ⊢
    generalize right.filters = ofRight at filters ⊢
    cases filters with
    | none => exact .nil
    | some same => exact same
  refine routed.bind_outcome ?_
  intro _ _ sameRouted
  refine Twins.bind_outcome (compileFilters_twins faithful naming filtered) ?_
  intro _ _ sameFiltered
  exact List.rel_append sameRouted sameFiltered

/-- Queries of alike requests differ in values only. -/
theorem compileSelect_twins (metadata : Metadata) {left right : Request}
    (alike : left.Alike mask right) :
    Twins strict (fun a b => (Statement.select a).SameOutline (.select b))
      (compileSelect metadata left).outcome (compileSelect metadata right).outcome := by
  unfold compileSelect
  rw [alike.domainName_eq, alike.projection_eq, ← alike.page]
  refine Twins.same.bind_outcome ?_
  rintro domain _ rfl
  refine Twins.same.bind_outcome ?_
  rintro projection _ rfl
  refine (conditions_twins faithful metadata.naming alike).bind_outcome ?_
  intro conditions others sameConditions
  cases left.page with
  | none => exact Statement.sameOutline_select sameConditions
  | some page =>
    refine Twins.same.bind_outcome ?_
    rintro order _ rfl
    refine Twins.same.bind_outcome ?_
    rintro window _ rfl
    exact Statement.sameOutline_select sameConditions

/-- A count and a removal of alike requests have what they are made of in common: the table,
and the outlines of their conditions. -/
theorem compileAbout_twins (metadata : Metadata) {left right : Request}
    (alike : left.Alike mask right) {build : TableName → List Condition → β}
    {same : β → β → Prop}
    (built : ∀ table conditions others, List.Forall₂ Condition.SameOutline conditions others →
      same (build table conditions) (build table others)) :
    Twins strict same (compileAbout build metadata left).outcome
      (compileAbout build metadata right).outcome := by
  unfold compileAbout
  rw [alike.domainName_eq]
  refine Twins.same.bind_outcome ?_
  rintro domain _ rfl
  refine (conditions_twins faithful metadata.naming alike).bind_outcome ?_
  intro conditions others sameConditions
  exact built _ _ _ sameConditions

/-- Updates of alike requests differ in values only. -/
theorem compileUpdate_twins (metadata : Metadata) {left right : Request}
    (alike : left.Alike mask right) :
    Twins strict (fun a b => (Statement.update a).SameOutline (.update b))
      (compileUpdate metadata left).outcome (compileUpdate metadata right).outcome := by
  unfold compileUpdate
  rw [alike.domainName_eq]
  refine Twins.bind_outcome (rows_twins alike) ?_
  rintro ⟨first, others⟩ ⟨first', others'⟩ ⟨alikeFirst, alikeOthers⟩
  have isEmpty : first.isEmpty = first'.isEmpty := by cases alikeFirst <;> rfl
  simp only [← isEmpty]
  split
  · exact fun _ => rfl
  · have told (left right : List Event) : Twins strict Eq
        (Traced.tell left : Traced CompileError Unit).outcome
        (Traced.tell right).outcome := rfl
    refine (told _ _).bind_outcome ?_
    rintro _ _ rfl
    refine Twins.same.bind_outcome ?_
    rintro domain _ rfl
    have assigned : Twins strict (List.Forall₂ fun a b => a.1 = b.1)
        (first.mapM (compileAssignment metadata.naming))
        (first'.mapM (compileAssignment metadata.naming)) :=
      Twins.mapM alikeFirst fun _ _ => compileAssignment_twins metadata.naming
    refine Twins.bind_outcome assigned ?_
    intro _ _ columns
    refine (conditions_twins faithful metadata.naming alike).bind_outcome ?_
    intro _ _ sameConditions
    exact Statement.sameOutline_update columns sameConditions

/-- Alike requests give statements of the same outlines, one by one. -/
theorem compileWork_twins (metadata : Metadata) (operation : Operation) {left right : Request}
    (alike : left.Alike mask right) :
    Twins strict (fun a b => List.Forall₂ Statement.SameOutline a.statements b.statements)
      (compileWork metadata left operation).outcome
      (compileWork metadata right operation).outcome := by
  cases operation with
  | query =>
    refine (compileSelect_twins faithful metadata alike).bind_outcome ?_
    intro _ _ sameRows
    have counts : Twins strict (fun a b => (Statement.select a).SameOutline (.select b))
        (compileCount metadata left).outcome (compileCount metadata right).outcome :=
      compileAbout_twins faithful metadata alike fun _ _ _ => Statement.sameOutline_select
    refine counts.bind_outcome ?_
    intro _ _ sameCount
    exact .cons sameRows (.cons sameCount .nil)
  | insert =>
    refine Twins.bind_outcome (compileInsert_twins metadata alike) ?_
    intro _ _ same
    exact .cons same .nil
  | update =>
    refine (compileUpdate_twins faithful metadata alike).bind_outcome ?_
    intro _ _ same
    exact .cons same .nil
  | delete =>
    have removals : Twins strict (fun a b => (Statement.delete a).SameOutline (.delete b))
        (compileDelete metadata left).outcome (compileDelete metadata right).outcome :=
      compileAbout_twins faithful metadata alike fun _ _ _ => Statement.sameOutline_delete
    refine removals.bind_outcome ?_
    intro _ _ same
    exact .cons same .nil

/-- Alike requests compile to statements that differ in values only. -/
theorem compile_twins (metadata : Metadata) {left right : Request}
    (alike : left.Alike mask right) :
    Twins strict (fun a b => List.Forall₂ Statement.SameOutline a.work.statements b.work.statements)
      (compile metadata left).outcome (compile metadata right).outcome := by
  unfold compile
  rw [alike.operationKind_eq, alike.domainName_eq]
  refine Twins.same.bind_outcome ?_
  rintro operation _ rfl
  refine Twins.same.bind_outcome ?_
  rintro domain _ rfl
  refine (compileWork_twins faithful metadata operation alike).bind_outcome ?_
  intro _ _ same
  exact same

end

/-- The text of a statement does not depend on the values of its request, and which
requests are compiled does not depend on them either, except for null.

Requests of the same shape that both compile have statements with pairwise the same
texts and equally many arguments. If they also have null at the same places, then
both compile or both fail with the same error. -/
theorem compile_value_free (metadata : Metadata) (left right : Request) :
    (left.SameShape right → ∀ plan other, (compile metadata left).outcome = .ok plan →
      (compile metadata right).outcome = .ok other →
      List.Forall₂ (fun a b => a.sql = b.sql ∧ a.arguments.length = b.arguments.length)
        plan.prepared other.prepared) ∧
    (left.SameShape right → left.SameNulls right →
      (∃ plan other, (compile metadata left).outcome = .ok plan ∧
        (compile metadata right).outcome = .ok other) ∨
      ∃ error, (compile metadata left).outcome = .error error ∧
        (compile metadata right).outcome = .error error) := by
  constructor
  · intro shape plan other compiled compiledOther
    have loose : False → ∀ a b, Scalar.hidden a = Scalar.hidden b →
        (a = .null ↔ b = .null) := False.elim
    have twins := compile_twins loose metadata (Request.alike_of_masked shape)
    rw [compiled, compiledOther] at twins
    have outlines : List.Forall₂ Statement.SameOutline plan.work.statements other.work.statements :=
      twins
    rw [Plan.prepared, Plan.prepared, List.forall₂_map_left_iff, List.forall₂_map_right_iff]
    exact outlines.imp fun _ _ same => same.prepared
  · intro _ nulls
    have faithful : True → ∀ a b, Scalar.presence a = Scalar.presence b →
        (a = .null ↔ b = .null) := by
      intro _ a b same
      cases a <;> cases b <;> simp_all [Scalar.presence]
    have twins := compile_twins faithful metadata (Request.alike_of_masked nulls)
    cases ofLeft : (compile metadata left).outcome with
    | ok plan =>
      cases ofRight : (compile metadata right).outcome with
      | ok other => exact Or.inl ⟨plan, other, rfl, rfl⟩
      | error reason =>
        rw [ofLeft, ofRight] at twins
        exact absurd trivial twins
    | error reason =>
      cases ofRight : (compile metadata right).outcome with
      | ok other =>
        rw [ofLeft, ofRight] at twins
        exact absurd trivial twins
      | error other =>
        rw [ofLeft, ofRight] at twins
        exact Or.inr ⟨reason, rfl, by rw [twins trivial]⟩

/-- A request to rename the users of some roles, with the values left open. -/
def renameUsers (name level code : Value) : Request where
  operation := some "update"
  domain := some "user"
  filters := some [("nameOr", .mapping [("userNameContain", name), ("emailNull", .bool true)])]
  data := some [[("userName", name), ("memo", .null)]]
  domainRoute := some {
    path := ["user", "role", "perm"]
    filters := [("roleQuery", .mapping [("levelIn", .array [level, level])]), ("permCode", code)] }

/-- An update with a text that tries to escape from its place has the same text as one with a
harmless name, and two requests that have null at the same place end in the same way. -/
theorem renameUsers_value_free :
    ((renameUsers (.text "ann") (.integer 3) (.text "x")).SameShape
        (renameUsers (.text "' OR 1=1") (.bool true) .null) ∧
      ∃ plan other,
        (compile {} (renameUsers (.text "ann") (.integer 3) (.text "x"))).outcome = .ok plan ∧
        (compile {} (renameUsers (.text "' OR 1=1") (.bool true) .null)).outcome = .ok other ∧
        List.Forall₂ (fun a b => a.sql = b.sql ∧ a.arguments.length = b.arguments.length)
          plan.prepared other.prepared) ∧
    (renameUsers .null (.integer 3) (.text "x")).SameShape
      (renameUsers .null (.text "?") (.bool false)) ∧
    (renameUsers .null (.integer 3) (.text "x")).SameNulls
      (renameUsers .null (.text "?") (.bool false)) ∧
    ((∃ plan other,
        (compile {} (renameUsers .null (.integer 3) (.text "x"))).outcome = .ok plan ∧
        (compile {} (renameUsers .null (.text "?") (.bool false))).outcome = .ok other) ∨
      ∃ error,
        (compile {} (renameUsers .null (.integer 3) (.text "x"))).outcome = .error error ∧
        (compile {} (renameUsers .null (.text "?") (.bool false))).outcome = .error error) := by
  have compiled := compile_value_free {} (renameUsers (.text "ann") (.integer 3) (.text "x"))
    (renameUsers (.text "' OR 1=1") (.bool true) .null)
  have refused := compile_value_free {} (renameUsers .null (.integer 3) (.text "x"))
    (renameUsers .null (.text "?") (.bool false))
  exact ⟨⟨rfl, _, _, rfl, rfl, compiled.1 rfl _ _ rfl rfl⟩, rfl, rfl, refused.2 rfl rfl⟩

end DomainSql
