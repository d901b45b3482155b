import DomainSql.Plan
import DomainSql.Proofs.Parts
import DomainSql.Proofs.PlainNames
import DomainSql.Proofs.RouteWalk

/-!
# What compiled statements are made of

The names of a compiled statement come from the request through a check and a
naming, and its lists are not empty, because an empty list is refused where it would
become one of SQL's. Both are said of every part of the statement, at any depth, and
both are followed through the compiler function by function.

The property of names is left open. All that is asked of it is that it holds of the
names that the naming gives.
-/
namespace DomainSql

open Sql

namespace Sql

/-- The lists of a condition that must not be empty have an entry. -/
def Condition.Filled : Condition → Prop
  | .member _ _ values => values ≠ []
  | .anyOf alternatives => alternatives ≠ []
  | .inSelects _ selects => selects ≠ []
  | .compare .. | .nullTest .. => True

/-- The lists that a statement holds outside of its conditions have an entry, and
every inserted row has a value for every column. -/
def Statement.OwnFilled : Statement → Prop
  | .select statement => statement.projection ≠ .columns []
  | .insert statement => statement.columns ≠ [] ∧ statement.rows ≠ [] ∧
    ∀ row ∈ statement.rows, row.length = statement.columns.length
  | .update statement => statement.assignments ≠ []
  | .delete _ => True

/-- The lists of a statement that must not be empty have an entry, at any depth. -/
def Statement.Filled (statement : Statement) : Prop :=
  statement.OwnFilled ∧ ∀ part ∈ statement.parts, part.Filled

section
variable (property : String → Prop)

/-- The names of a condition have a property and its lists are filled, at any
depth. -/
def Condition.Sound (condition : Condition) : Prop :=
  condition.Throughout fun part => (∀ name ∈ part.names, property name) ∧ part.Filled

/-- The names of a sub-select have a property, and its conditions are sound. -/
def SubSelect.Sound (select : SubSelect) : Prop :=
  (∀ name ∈ select.names, property name) ∧
    ∀ condition ∈ select.conditions, condition.Sound property

/-- The names of a statement have a property and its lists are filled. -/
def Statement.Sound (statement : Statement) : Prop :=
  (∀ name ∈ statement.names, property name) ∧ statement.Filled

end

section
variable {property : String → Prop}

/-- A comparison is sound when its column has the property. -/
theorem Condition.sound_compare {column : ColumnName} {relation : Comparison} {value : Scalar} :
    (Condition.compare column relation value).Sound property ↔ property column := by
  simp [Sound, Throughout, parts, names, Filled]

/-- A membership test is sound when its column has the property and it has values. -/
theorem Condition.sound_member {column : ColumnName} {test : Membership}
    {values : List Scalar} :
    (Condition.member column test values).Sound property ↔ property column ∧ values ≠ [] := by
  simp [Sound, Throughout, parts, names, Filled]

/-- A null test is sound when its column has the property. -/
theorem Condition.sound_nullTest {column : ColumnName} {test : NullTest} :
    (Condition.nullTest column test).Sound property ↔ property column := by
  simp [Sound, Throughout, parts, names, Filled]

/-- Alternatives are sound when there are any and each of them is. -/
theorem Condition.sound_anyOf {alternatives : List Condition} :
    (Condition.anyOf alternatives).Sound property ↔
      alternatives ≠ [] ∧ ∀ condition ∈ alternatives, condition.Sound property := by
  simp [Sound, throughout_anyOf, names, Filled]

/-- A test against sub-selects is sound when there are any and each of them is. -/
theorem Condition.sound_inSelects {column : ColumnName} {selects : List SubSelect} :
    (Condition.inSelects column selects).Sound property ↔
      property column ∧ selects ≠ [] ∧ ∀ select ∈ selects, select.Sound property := by
  simp only [Sound, SubSelect.Sound, throughout_inSelects, names, Filled, List.forall_mem_cons,
    List.mem_flatMap]
  constructor
  · rintro ⟨⟨⟨columnNamed, inNames⟩, filled⟩, inside⟩
    exact ⟨columnNamed, filled, fun select listed =>
      ⟨fun name inSelect => inNames name ⟨select, listed, inSelect⟩, inside select listed⟩⟩
  · rintro ⟨columnNamed, filled, each⟩
    refine ⟨⟨⟨columnNamed, ?_⟩, filled⟩, fun select listed => (each select listed).2⟩
    rintro name ⟨select, listed, inSelect⟩
    exact (each select listed).1 name inSelect

/-- A sub-select is sound when its column, its table and its conditions are. -/
theorem SubSelect.sound_select {column : ColumnName} {source : TableName}
    {conditions : List Condition} :
    (SubSelect.select column source conditions).Sound property ↔
      property column ∧ property source ∧
        ∀ condition ∈ conditions, condition.Sound property := by
  simp [Sound, names, SubSelect.conditions, and_assoc]

/-- A statement is sound when its own names and lists are, and all of its
conditions. -/
theorem Statement.sound_of_conditions {statement : Statement}
    (named : ∀ name ∈ statement.ownNames, property name) (filled : statement.OwnFilled)
    (sound : ∀ condition ∈ statement.conditions, condition.Sound property) :
    statement.Sound property := by
  have ofParts : ∀ part ∈ statement.parts,
      (∀ name ∈ part.names, property name) ∧ part.Filled := by
    intro part inside
    obtain ⟨condition, present, inCondition⟩ := mem_partsOf.mp inside
    exact sound condition present part inCondition
  have ofNames : ∀ name ∈ namesOf statement.conditions, property name := by
    intro name inside
    obtain ⟨part, inParts, inNames⟩ := List.mem_flatMap.mp inside
    exact (ofParts part inParts).1 name inNames
  constructor
  · rw [Statement.names, List.forall_mem_append]
    exact ⟨named, ofNames⟩
  · refine ⟨filled, ?_⟩
    intro part inside
    exact (ofParts part inside).2

end

end Sql

/-- An array that is taken for a list of scalars has an entry. -/
theorem scalarsOf_ne_nil {key : String} {value : Value} {scalars : List Scalar}
    (taken : scalarsOf key value = .ok scalars) : scalars ≠ [] := by
  unfold scalarsOf at taken
  split at taken
  · simp at taken
  · rename_i items notEmpty
    have lengths := (mapM_eq_ok.mp taken).length_eq
    rintro rfl
    exact notEmpty (List.eq_nil_of_length_eq_zero lengths)
  · simp at taken

section
variable {property : String → Prop} {naming : Naming}

/-- The condition of an operator is on the one column it is given. -/
theorem Operator.condition_sound {operator : Operator} {column : ColumnName} {key : String}
    {value : Value} {condition : Condition} (named : property column)
    (compiled : operator.condition column key value = .ok condition) :
    condition.Sound property := by
  cases operator <;>
    simp only [Operator.condition, bind_eq_ok, pure_eq_ok] at compiled
  case isIn | notIn =>
    obtain ⟨scalars, taken, rfl⟩ := compiled
    exact Condition.sound_member.mpr ⟨named, scalarsOf_ne_nil taken⟩
  case null | notNull =>
    cases compiled
    exact Condition.sound_nullTest.mpr named
  all_goals
    obtain ⟨scalar, taken, rfl⟩ := compiled
    exact Condition.sound_compare.mpr named

variable (gives : naming.Gives property)
include gives

/-- A single condition is sound, since its column has been checked. -/
theorem compileCondition_sound {key : String} {value : Value} {condition : Condition}
    (compiled : compileCondition naming key value = .ok condition) :
    condition.Sound property := by
  simp only [compileCondition, bind_eq_ok, checkIdentifier_eq_ok] at compiled
  obtain ⟨_, plain, compiledHere⟩ := compiled
  exact Operator.condition_sound (gives.column plain) compiledHere

/-- What an entry of a filter mapping compiles to is sound, alternatives included. -/
theorem compileFilter_sound {key : String} {value : Value} {condition : Condition}
    (compiled : compileFilter naming key value = .ok condition) :
    condition.Sound property := by
  unfold compileFilter at compiled
  split at compiled
  · unfold compileAlternatives at compiled
    split at compiled
    · simp at compiled
    · rename_i entries notEmpty
      simp only [bind_eq_ok, mapM_eq_ok, pure_eq_ok] at compiled
      obtain ⟨alternatives, each, rfl⟩ := compiled
      rw [Condition.sound_anyOf]
      constructor
      · rintro rfl
        exact notEmpty (List.forall₂_nil_right_iff.mp each)
      · intro condition inside
        obtain ⟨entry, _, compiledEntry⟩ := exists_entry_of_mem each inside
        exact compileCondition_sound gives compiledEntry
    · simp at compiled
  · exact compileCondition_sound gives compiled

/-- What a filter mapping compiles to is sound. -/
theorem compileFilters_sound {filters : Mapping} {conditions : List Condition}
    (compiled : compileFilters naming filters = .ok conditions) :
    ∀ condition ∈ conditions, condition.Sound property := by
  intro condition inside
  obtain ⟨entry, _, compiledEntry⟩ := exists_entry_of_mem (mapM_eq_ok.mp compiled) inside
  exact compileFilter_sound gives compiledEntry

namespace DomainRoute
variable {route : DomainRoute}

/-- What the filters at the leaf compile to is sound. The columns and tables here are made of the
leaf and its id column, which have to be plain. -/
theorem leafConditions_sound {leaf : String} {interior : List String}
    {conditions : List Condition} (leafPlain : isIdentifier leaf = true)
    (lastPlain : ∀ column ∈ route.lastDomainIdColumn, isIdentifier column = true)
    (compiled : (route.leafConditions naming leaf interior).outcome = .ok conditions) :
    ∀ condition ∈ conditions, condition.Sound property := by
  rcases leafConditions_eq_ok.mp compiled with
    ⟨_, rfl⟩ | ⟨key, value, _, condition, _, _, translated, rfl⟩
  · simp
  · rw [List.forall_mem_singleton]
    unfold leafCondition at translated
    split at translated
    · simp only [bind_eq_ok, pure_eq_ok] at translated
      obtain ⟨inner, compiledQuery, rfl⟩ := translated
      have idNamed : property (route.lastDomainIdColumn.getD naming.idColumn) := by
        cases last : route.lastDomainIdColumn with
        | none => exact gives.idColumn
        | some column => exact gives.plain column (lastPlain column last)
      rw [Condition.sound_inSelects, List.forall_mem_singleton, SubSelect.sound_select]
      exact ⟨gives.joinId leaf leafPlain, by simp, idNamed, gives.table leaf leafPlain,
        compileFilters_sound gives compiledQuery⟩
    · exact compileFilter_sound gives translated

/-- The query on a domain in between compiles to sound sub-selects. -/
theorem interiorQuery_sound {domain : String} {selects : List SubSelect}
    (domainPlain : isIdentifier domain = true)
    (compiled : route.interiorQuery naming domain = .ok selects) :
    ∀ select ∈ selects, select.Sound property := by
  unfold interiorQuery at compiled
  split at compiled
  · have none : selects = [] := by simpa using compiled.symm
    simp [none]
  · simp only [bind_eq_ok, pure_eq_ok] at compiled
    obtain ⟨conditions, compiledQuery, rfl⟩ := compiled
    rw [List.forall_mem_singleton, SubSelect.sound_select]
    exact ⟨gives.idColumn, gives.table domain domainPlain,
      compileFilters_sound gives compiledQuery⟩
  · simp at compiled

/-- A link with plain ends and a named table keeps a sub-select sound. -/
theorem followLink_sound {found next : SubSelect} {link : Link}
    (nearPlain : isIdentifier link.near = true) (farPlain : isIdentifier link.far = true)
    (tableNamed : property link.table) (sound : found.Sound property)
    (compiled : route.followLink naming found link = .ok next) : next.Sound property := by
  simp only [followLink, bind_eq_ok, pure_eq_ok] at compiled
  obtain ⟨selects, compiledQuery, rfl⟩ := compiled
  rw [SubSelect.sound_select, List.forall_mem_singleton, Condition.sound_inSelects,
    List.forall_mem_append, List.forall_mem_singleton]
  exact ⟨gives.joinId _ farPlain, tableNamed, gives.joinId _ nearPlain, by simp,
    interiorQuery_sound gives nearPlain compiledQuery, sound⟩

/-- Following links from a sound sub-select leads to a sound one. The induction goes along the walk,
each link around what has been found so far. -/
theorem foldlM_followLink_sound {found outermost : SubSelect} {links : List Link}
    (plain : ∀ link ∈ links, isIdentifier link.near = true ∧ isIdentifier link.far = true ∧
      property link.table) (sound : found.Sound property)
    (compiled : links.foldlM (route.followLink naming) found = .ok outermost) :
    outermost.Sound property := by
  induction links generalizing found with
  | nil =>
    have same : found = outermost := by simpa [pure, Except.pure] using compiled
    exact same ▸ sound
  | cons link rest ih =>
    rw [List.foldlM_cons, bind_eq_ok] at compiled
    obtain ⟨next, step, compiledRest⟩ := compiled
    obtain ⟨⟨nearPlain, farPlain, tableNamed⟩, ofRest⟩ := List.forall_mem_cons.mp plain
    exact ih ofRest (followLink_sound gives nearPlain farPlain tableNamed sound step) compiledRest

/-- The condition of a route is sound, for the route checks its domains before it uses them. -/
theorem compile_sound {condition : Condition}
    (compiled : (route.compile naming).outcome = .ok condition) : condition.Sound property := by
  obtain ⟨first, others, conditions, outermost, steps, checked, atLeaf, followed, rfl⟩ :=
    compile_eq_ok.mp compiled
  obtain ⟨pathPlain, lastPlain⟩ := checkNames_eq_ok.mp checked
  have plain : ∀ link ∈ first :: others, isIdentifier link.near = true ∧
      isIdentifier link.far = true ∧ property link.table := by
    intro link inside
    obtain ⟨index, linkAt⟩ := List.getElem?_of_mem (steps ▸ inside)
    obtain ⟨nearAt, farAt, table⟩ := getElem?_links.mp linkAt
    have nearPlain := pathPlain _ (mem_path_of_walk nearAt)
    have farPlain := pathPlain _ (mem_path_of_walk farAt)
    refine ⟨nearPlain, farPlain, ?_⟩
    rw [table, joinTable]
    split
    · exact gives.joinTable _ _ nearPlain farPlain
    · exact gives.joinTable _ _ farPlain nearPlain
  obtain ⟨⟨nearPlain, farPlain, tableNamed⟩, ofOthers⟩ := List.forall_mem_cons.mp plain
  rw [Condition.sound_inSelects, List.forall_mem_singleton]
  refine ⟨gives.idColumn, by simp, foldlM_followLink_sound gives ofOthers ?_ followed⟩
  exact SubSelect.sound_select.mpr ⟨gives.joinId _ farPlain, tableNamed,
    leafConditions_sound gives nearPlain lastPlain atLeaf⟩

end DomainRoute

/-- The conditions of a request, of its route and of its filters, are sound. -/
theorem compileWhere_sound {filters : Option Mapping} {route : Option DomainRoute}
    {conditions : List Condition}
    (compiled : (compileWhere naming filters route).outcome = .ok conditions) :
    ∀ condition ∈ conditions, condition.Sound property := by
  simp only [compileWhere, Traced.outcome_bind_eq_ok, Traced.outcome_lift,
    Traced.outcome_pure, Except.ok.injEq] at compiled
  obtain ⟨routed, compiledRoute, filtered, compiledFilters, rfl⟩ := compiled
  rw [List.forall_mem_append]
  refine ⟨?_, compileFilters_sound gives compiledFilters⟩
  cases route with
  | none =>
    have none : routed = [] := by simpa using compiledRoute.symm
    simp [none]
  | some route =>
    simp only [Option.toList, List.mapM_cons, List.mapM_nil, Traced.outcome_bind_eq_ok,
      Traced.outcome_pure, Except.ok.injEq] at compiledRoute
    obtain ⟨condition, compiledHere, _, rfl, rfl⟩ := compiledRoute
    rw [List.forall_mem_singleton]
    exact DomainRoute.compile_sound gives compiledHere

end

/-- The domain of a request is plain. -/
theorem Request.isIdentifier_domainName {request : Request} {domain : String}
    (given : request.domainName = .ok domain) : isIdentifier domain = true := by
  unfold domainName at given
  split at given
  · simp at given
  · simp at given
  · simp only [bind_eq_ok, checkIdentifier_eq_ok, pure_eq_ok] at given
    obtain ⟨_, plain, rfl⟩ := given
    exact plain

/-- The columns that a request asks for are plain, and there is one if any are
named. -/
theorem Request.projection_plain {request : Request} {projection : Projection}
    (given : request.projection = .ok projection) :
    (∀ name ∈ projection.names, isIdentifier name = true) ∧ projection ≠ .columns [] := by
  unfold Request.projection at given
  split at given
  · simp only [Except.ok.injEq] at given
    subst given
    simp [Projection.names]
  · simp only [Except.ok.injEq] at given
    subst given
    simp [Projection.names]
  · rename_i columns notEmpty asked
    simp only [bind_eq_ok, pure_eq_ok] at given
    obtain ⟨_, checked, rfl⟩ := given
    constructor
    · intro name listed
      exact checkIdentifier_eq_ok.mp (forM_eq_ok.mp checked name listed)
    · rintro ⟨⟩
      exact notEmpty rfl

/-- An entry of a sort text names the column of a plain field. -/
theorem sortItem?_plain {naming : Naming} {entry : List Char} {item : OrderItem}
    (read : sortItem? naming entry = some item) :
    ∃ field, isIdentifier field = true ∧ item.column = naming.columnName field := by
  unfold sortItem? at read
  split at read
  all_goals
    simp only [Option.bind_eq_bind, Option.bind_eq_some_iff] at read
    obtain ⟨⟨column, direction⟩, _, named⟩ := read
    split at named
    · rename_i plain
      cases named
      exact ⟨_, plain, rfl⟩
    · cases named

section
variable {property : String → Prop} {metadata : Metadata} {request : Request}
variable (gives : metadata.naming.Gives property)
include gives

/-- The columns of an order have the property, since each has been checked. -/
theorem compileSort_named {sort : Option String} {order : List OrderItem}
    (compiled : compileSort metadata.naming sort = .ok order) :
    ∀ item ∈ order, property item.column := by
  unfold compileSort at compiled
  simp only at compiled
  split at compiled
  · have none : order = [] := by simpa using compiled.symm
    simp [none]
  · split at compiled
    · rename_i items read
      simp only [Except.ok.injEq] at compiled
      subst compiled
      intro item inside
      obtain ⟨entry, _, readEntry⟩ := exists_entry_of_mem (mapM_eq_some.mp read) inside
      obtain ⟨field, plain, column⟩ := sortItem?_plain readEntry
      exact column ▸ gives.column plain
    · cases compiled

/-- The statement for the rows of a query is sound. -/
theorem compileSelect_sound {select : Select}
    (compiled : (compileSelect metadata request).outcome = .ok select) :
    (Statement.select select).Sound property := by
  simp only [compileSelect, Traced.outcome_bind_eq_ok, Traced.outcome_liftM] at compiled
  obtain ⟨domain, given, projection, asked, conditions, compiledWhere, paged⟩ := compiled
  have source := gives.table domain (request.isIdentifier_domainName given)
  obtain ⟨columnsPlain, someColumn⟩ := request.projection_plain asked
  have shape : ∃ order window, select = ⟨projection, metadata.naming.tableName domain, conditions,
      order, window⟩ ∧ ∀ item ∈ order, property item.column := by
    split at paged
    · simp only [Traced.outcome_pure, Except.ok.injEq] at paged
      exact ⟨[], {}, paged.symm, by simp⟩
    · simp only [Traced.outcome_bind_eq_ok, Traced.outcome_liftM, Traced.outcome_pure,
        Except.ok.injEq] at paged
      obtain ⟨order, sorted, window, _, rfl⟩ := paged
      exact ⟨order, window, rfl, compileSort_named gives sorted⟩
  obtain ⟨order, window, rfl, ordered⟩ := shape
  refine Statement.sound_of_conditions ?_ someColumn (compileWhere_sound gives compiledWhere)
  simp only [Statement.ownNames, List.cons_append, List.forall_mem_cons, List.forall_mem_append,
    List.forall_mem_map]
  refine ⟨source, ?_, ordered⟩
  intro name listed
  exact gives.plain name (columnsPlain name listed)

/-- A count and a removal are made of a table that is named well and of sound conditions. -/
theorem exists_about {build : TableName → List Condition → β} {statement : β}
    (compiled : (compileAbout build metadata request).outcome = .ok statement) :
    ∃ table conditions, statement = build table conditions ∧ property table ∧
      ∀ condition ∈ conditions, condition.Sound property := by
  simp only [compileAbout, Traced.outcome_bind_eq_ok, Traced.outcome_liftM, Traced.outcome_pure,
    Except.ok.injEq] at compiled
  obtain ⟨domain, given, conditions, compiledWhere, rfl⟩ := compiled
  exact ⟨_, conditions, rfl, gives.table domain (request.isIdentifier_domainName given),
    compileWhere_sound gives compiledWhere⟩

/-- The count has no name but its table. -/
theorem compileCount_sound {select : Select}
    (compiled : (compileCount metadata request).outcome = .ok select) :
    (Statement.select select).Sound property := by
  obtain ⟨table, conditions, rfl, source, sound⟩ := exists_about gives compiled
  refine Statement.sound_of_conditions ?_ (by simp [Statement.OwnFilled, Select.countOf]) sound
  simpa [Statement.ownNames, Select.countOf, Projection.names] using source

omit gives in
/-- Every compiled row has a value for every key. -/
theorem length_compileRows {keys : List String} {index : Nat} {rows : List Row}
    {values : List (List Scalar)} (compiled : compileRows keys index rows = .ok values) :
    values.length = rows.length ∧ ∀ row ∈ values, row.length = keys.length := by
  induction rows generalizing index values with
  | nil =>
    have none : values = [] := by simpa [compileRows] using compiled.symm
    simp [none]
  | cons row rest ih =>
    simp only [compileRows, bind_eq_ok, pure_eq_ok] at compiled
    obtain ⟨cells, compiledRow, others, compiledRest, rfl⟩ := compiled
    obtain ⟨asMany, ofRest⟩ := ih compiledRest
    unfold compileRow at compiledRow
    split at compiledRow
    · cases compiledRow
    · split at compiledRow
      · cases compiledRow
      · have length := (mapM_eq_ok.mp compiledRow).length_eq
        exact ⟨by simp [asMany], List.forall_mem_cons.mpr ⟨length.symm, ofRest⟩⟩

/-- The statement of an insert is sound, with as many values in every row as columns. -/
theorem compileInsert_sound {insert : Insert}
    (compiled : compileInsert metadata request = .ok insert) :
    (Statement.insert insert).Sound property := by
  simp only [compileInsert, bind_eq_ok] at compiled
  obtain ⟨⟨first, others⟩, _, domain, given, checked⟩ := compiled
  split at checked
  · simp only [bind_eq_ok] at checked
    obtain ⟨_, impossible, _⟩ := checked
    cases impossible
  · rename_i notEmpty
    simp only [bind_eq_ok, pure_eq_ok] at checked
    obtain ⟨_, keysChecked, rows, compiledRows, rfl⟩ := checked
    have keysPlain (key : String) (listed : key ∈ Mapping.keys first) :
        isIdentifier key = true :=
      checkIdentifier_eq_ok.mp (forM_eq_ok.mp keysChecked key listed)
    obtain ⟨asMany, asLong⟩ := length_compileRows compiledRows
    have someKey : first ≠ [] := fun none => notEmpty (by simp [none])
    have table := gives.table domain (request.isIdentifier_domainName given)
    have columns : ∀ key ∈ Mapping.keys first, property (metadata.naming.columnName key) := by
      intro key listed
      exact gives.column (keysPlain key listed)
    apply Statement.sound_of_conditions
    · exact List.forall_mem_cons.mpr ⟨table, List.forall_mem_map.mpr columns⟩
    · refine ⟨?_, ?_, ?_⟩
      · simpa [Mapping.keys] using someKey
      · exact List.ne_nil_of_length_eq_add_one asMany
      · simpa using asLong
    · simp [Statement.conditions]

/-- The assigned columns are those of plain fields, one for each field. -/
theorem compileAssignment_named {field : String × Value} {assignment : ColumnName × Scalar}
    (compiled : compileAssignment metadata.naming field = .ok assignment) :
    property assignment.1 := by
  simp only [compileAssignment, bind_eq_ok, checkIdentifier_eq_ok, pure_eq_ok] at compiled
  obtain ⟨_, plain, _, _, rfl⟩ := compiled
  exact gives.column plain

/-- The statement of an update is sound. -/
theorem compileUpdate_sound {update : Update}
    (compiled : (compileUpdate metadata request).outcome = .ok update) :
    (Statement.update update).Sound property := by
  simp only [compileUpdate, Traced.outcome_bind_eq_ok, Traced.outcome_liftM] at compiled
  obtain ⟨⟨first, others⟩, _, checked⟩ := compiled
  split at checked
  · simp only [Traced.outcome_bind_eq_ok, Traced.outcome_lift] at checked
    obtain ⟨_, impossible, _⟩ := checked
    cases impossible
  · rename_i notEmpty
    simp only [Traced.outcome_bind_eq_ok, Traced.outcome_liftM, Traced.outcome_lift,
      Traced.outcome_pure, mapM_eq_ok, Except.ok.injEq] at checked
    obtain ⟨_, _, domain, given, assignments, each, conditions, compiledWhere, rfl⟩ := checked
    have table := gives.table domain (request.isIdentifier_domainName given)
    have columns : ∀ assignment ∈ assignments, property assignment.1 := by
      intro assignment inside
      obtain ⟨field, _, compiledField⟩ := exists_entry_of_mem each inside
      exact compileAssignment_named gives compiledField
    apply Statement.sound_of_conditions
    · exact List.forall_mem_cons.mpr ⟨table, List.forall_mem_map.mpr columns⟩
    · rintro rfl
      exact notEmpty (by simp [List.forall₂_nil_right_iff.mp each])
    · exact compileWhere_sound gives compiledWhere

/-- The removal has no name but its table. -/
theorem compileDelete_sound {delete : Delete}
    (compiled : (compileDelete metadata request).outcome = .ok delete) :
    (Statement.delete delete).Sound property := by
  obtain ⟨table, conditions, rfl, source, sound⟩ := exists_about gives compiled
  refine Statement.sound_of_conditions ?_ trivial sound
  simpa [Statement.ownNames] using source

/-- All statements of a compiled plan are sound. -/
theorem compile_sound {plan : Plan} (compiled : (compile metadata request).outcome = .ok plan) :
    ∀ statement ∈ plan.work.statements, statement.Sound property := by
  simp only [compile, Traced.outcome_bind_eq_ok, Traced.outcome_liftM, Traced.outcome_tell,
    Traced.outcome_pure, Except.ok.injEq] at compiled
  obtain ⟨operation, _, domain, _, work, compiledWork, _, _, rfl⟩ := compiled
  cases operation with
  | query =>
    simp only [compileWork, Traced.outcome_bind_eq_ok, Traced.outcome_pure,
      Except.ok.injEq] at compiledWork
    obtain ⟨rows, compiledRows, count, compiledCount, rfl⟩ := compiledWork
    exact List.forall_mem_cons.mpr ⟨compileSelect_sound gives compiledRows,
      List.forall_mem_singleton.mpr (compileCount_sound gives compiledCount)⟩
  | insert =>
    simp only [compileWork, Traced.outcome_bind_eq_ok, Traced.outcome_liftM, Traced.outcome_pure,
      Except.ok.injEq] at compiledWork
    obtain ⟨insert, compiledInsert, rfl⟩ := compiledWork
    exact List.forall_mem_singleton.mpr (compileInsert_sound gives compiledInsert)
  | update =>
    simp only [compileWork, Traced.outcome_bind_eq_ok, Traced.outcome_pure,
      Except.ok.injEq] at compiledWork
    obtain ⟨update, compiledUpdate, rfl⟩ := compiledWork
    exact List.forall_mem_singleton.mpr (compileUpdate_sound gives compiledUpdate)
  | delete =>
    simp only [compileWork, Traced.outcome_bind_eq_ok, Traced.outcome_pure,
      Except.ok.injEq] at compiledWork
    obtain ⟨delete, compiledDelete, rfl⟩ := compiledWork
    exact List.forall_mem_singleton.mpr (compileDelete_sound gives compiledDelete)

end

end DomainSql
