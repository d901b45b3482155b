import DomainSql.Proofs.AcceptedFilters
import Mathlib.Data.List.Perm.Subperm

/-!
# Which requests compile

Exactly the well-formed requests do. The checks are spread over the compiler, and every
operation makes those of the fields that it reads.

That a row of an insert has the same keys as the first one is checked by counting its
entries and looking up every key of the first row. This is the same as long as no row
holds a key twice.
-/
namespace DomainSql

open Sql

section
variable {metadata : Metadata} {request : Request}

/-- The domain of a request is there and plain. -/
theorem succeeds_domainName :
    Succeeds request.domainName ↔
      ∃ domain, request.domain = some domain ∧ isIdentifier domain = true := by
  unfold Request.domainName
  split
  · rename_i absent
    simp [absent]
  · rename_i empty
    simp [empty, isIdentifier]
  · rename_i domain _ given
    rw [succeeds_bind_pure, succeeds_checkIdentifier, given]
    simp

/-- A request has a domain when it names one and the name is plain. -/
theorem domainName_eq_ok {domain : String} :
    request.domainName = .ok domain ↔
      request.domain = some domain ∧ isIdentifier domain = true := by
  unfold Request.domainName
  split
  · rename_i absent
    simp [absent]
  · rename_i empty
    rw [empty]
    constructor
    · exact nofun
    · rintro ⟨⟨⟩, impossible⟩
      cases impossible
  · rename_i name _ given
    rw [bind_pure_eq_ok, given, Option.some.injEq]
    constructor
    · rintro ⟨_, plain, rfl⟩
      exact ⟨rfl, checkIdentifier_eq_ok.mp plain⟩
    · rintro ⟨rfl, plain⟩
      exact ⟨(), checkIdentifier_eq_ok.mpr plain, rfl⟩

/-- The conditions of a request compile when its route and its filters do. -/
theorem succeeds_conditions {naming : Naming} :
    Succeeds (request.conditions naming).outcome ↔ request.WellFormedConditions := by
  have routed : Succeeds (request.domainRoute.toList.mapM (DomainRoute.compile naming)).outcome ↔
      ∀ route ∈ request.domainRoute, route.WellFormed := by
    cases request.domainRoute with
    | none => simp
    | some route =>
      rw [Option.toList_some, List.mapM_cons, Traced.succeeds_bind_and fun _ _ =>
        Traced.succeeds_bind_pure, DomainRoute.succeeds_compile]
      simp
  have filtered : Succeeds (compileFilters naming (request.filters.getD [])) ↔
      ∀ filters ∈ request.filters, WellFormedFilters filters := by
    rw [succeeds_compileFilters]
    cases request.filters <;> simp [WellFormedFilters]
  unfold Request.conditions compileWhere
  rw [Traced.succeeds_bind_and fun _ _ => Traced.succeeds_bind_pure, Traced.outcome_lift, routed,
    filtered]
  constructor
  · rintro ⟨route, filters⟩
    exact ⟨route, filters⟩
  · intro wellFormed
    exact ⟨wellFormed.route, wellFormed.filters⟩

/-- The columns that are asked for compile when each of them is plain. A request that names none
asks for all, which always compiles. -/
theorem succeeds_projection :
    Succeeds request.projection ↔
      ∀ columns ∈ request.columns, ∀ column ∈ columns, isIdentifier column = true := by
  unfold Request.projection
  split
  · rename_i absent
    simp [absent]
  · rename_i empty
    simp [empty]
  · rename_i columns _ given
    rw [succeeds_bind_pure, succeeds_forM, given]
    simp [succeeds_checkIdentifier]

/-- A page compiles unless its size is zero. The default size stands for one that is absent. -/
theorem succeeds_compileWindow {paging : Paging} {page : PageQuery} :
    Succeeds (compileWindow paging page) ↔ page.pageSize.getD paging.defaultPageSize ≠ 0 := by
  simp only [compileWindow]
  split <;> simp_all

/-- The rows of a query compile when the domain and all that the query reads are well-formed. -/
theorem succeeds_compileSelect :
    Succeeds (compileSelect metadata request).outcome ↔
      Succeeds request.domainName ∧ request.WellFormedQuery metadata.paging := by
  unfold compileSelect
  cases paged : request.page with
  | none =>
    simp only
    rw [Traced.succeeds_bind_and fun _ _ => Traced.succeeds_bind_and fun _ _ =>
      Traced.succeeds_bind_pure, Traced.outcome_liftM, Traced.outcome_liftM, succeeds_projection,
      succeeds_conditions]
    refine and_congr_right fun _ => ?_
    constructor
    · rintro ⟨columns, conditions⟩
      exact ⟨columns, conditions, by simp [paged]⟩
    · intro wellFormed
      exact ⟨wellFormed.columns, wellFormed.conditions⟩
  | some page =>
    simp only
    rw [Traced.succeeds_bind_and fun _ _ => Traced.succeeds_bind_and fun _ _ =>
      Traced.succeeds_bind_and fun _ _ => Traced.succeeds_bind_and fun _ _ =>
      Traced.succeeds_bind_pure]
    simp only [Traced.outcome_liftM, succeeds_projection, succeeds_conditions,
      succeeds_compileSort, succeeds_compileWindow]
    refine and_congr_right fun _ => ?_
    constructor
    · rintro ⟨columns, conditions, sort, size⟩
      refine ⟨columns, conditions, ?_⟩
      rw [paged]
      rintro _ ⟨⟩
      exact ⟨sort, size⟩
    · intro wellFormed
      have ofPage := wellFormed.page page paged
      exact ⟨wellFormed.columns, wellFormed.conditions, ofPage.sort, ofPage.size⟩

/-- A statement about all rows that meet the conditions asks for a domain and for conditions,
whatever it is made into. -/
theorem succeeds_compileAbout {build : TableName → List Condition → β} :
    Succeeds (compileAbout build metadata request).outcome ↔
      Succeeds request.domainName ∧ request.WellFormedConditions := by
  unfold compileAbout
  rw [Traced.succeeds_bind_and fun _ _ => Traced.succeeds_bind_pure, Traced.outcome_liftM,
    succeeds_conditions]

/-- An assignment compiles when its field is plain and its value is a scalar. -/
theorem succeeds_compileAssignment {naming : Naming} {field : String × Value} :
    Succeeds (compileAssignment naming field) ↔
      isIdentifier field.1 = true ∧ ∃ scalar, field.2 = .scalar scalar := by
  unfold compileAssignment
  rw [succeeds_bind_and fun _ _ => succeeds_bind_pure, succeeds_checkIdentifier, succeeds_scalarOf]

/-- The rows of a request are its data, if there is a first one. -/
theorem rows_eq_ok {first : Row} {others : List Row} :
    request.rows = .ok (first, others) ↔ request.data = some (first :: others) := by
  unfold Request.rows
  split <;> simp_all

/-- An update compiles when the domain, its first row and its conditions are well-formed. -/
theorem succeeds_compileUpdate :
    Succeeds (compileUpdate metadata request).outcome ↔
      Succeeds request.domainName ∧ request.WellFormedUpdate := by
  unfold compileUpdate
  rw [Traced.outcome_bind, Traced.outcome_liftM, succeeds_bind, Prod.exists]
  simp only [rows_eq_ok]
  constructor
  · rintro ⟨first, others, given, checked⟩
    split at checked
    · rw [Traced.outcome_bind] at checked
      exact absurd checked (not_succeeds_error _)
    · rename_i notEmpty
      rw [Traced.succeeds_bind_and fun _ _ => Traced.succeeds_bind_and fun _ _ =>
        Traced.succeeds_bind_and fun _ _ => Traced.succeeds_bind_pure] at checked
      obtain ⟨_, domain, assigned, conditions⟩ := checked
      rw [Traced.outcome_lift, succeeds_mapM] at assigned
      refine ⟨domain, ⟨first, others, given, by simpa using notEmpty, ?_⟩,
        succeeds_conditions.mp conditions⟩
      intro field listed
      exact succeeds_compileAssignment.mp (assigned field listed)
  · rintro ⟨domain, ⟨first, others, given, notEmpty, fields⟩, conditions⟩
    refine ⟨first, others, given, ?_⟩
    rw [if_neg (by simpa using notEmpty), Traced.succeeds_bind_and fun _ _ =>
      Traced.succeeds_bind_and fun _ _ => Traced.succeeds_bind_and fun _ _ =>
      Traced.succeeds_bind_pure]
    refine ⟨succeeds_ok _, domain, ?_, succeeds_conditions.mpr conditions⟩
    rw [Traced.outcome_lift, succeeds_mapM]
    intro field listed
    exact succeeds_compileAssignment.mpr (fields field listed)

/-- If a mapping holds its keys once, its entries are what is found in it. -/
theorem Mapping.value?_eq_some_iff {entries : Mapping} (unique : Unique entries) {key : String}
    {value : Value} : value? entries key = some value ↔ (key, value) ∈ entries := by
  induction entries with
  | nil => simp [value?]
  | cons entry rest ih =>
    obtain ⟨other, present⟩ := entry
    obtain ⟨absent, uniqueRest⟩ := List.nodup_cons.mp unique
    by_cases same : key = other
    · subst same
      have notBehind : (key, value) ∉ rest := fun inside =>
        absent (List.mem_map.mpr ⟨_, inside, rfl⟩)
      simp [value?, notBehind, eq_comm]
    · have unequal : (key == other) = false := by simpa using same
      simpa [value?, List.lookup_cons, unequal, same] using ih uniqueRest

/-- A row has a cell for a column when it holds a scalar under its key. -/
theorem succeeds_cellOf {index : Nat} {row : Row} {key : String} :
    Succeeds (cellOf index row key) ↔ ∃ scalar, Mapping.value? row key = some (.scalar scalar) := by
  unfold cellOf
  split
  · rename_i absent
    simp [absent]
  · rename_i value present
    simp [present, succeeds_scalarOf]

/-- A row compiles when it has as many entries as there are keys, and a scalar under each
of them. -/
theorem succeeds_compileRow_iff_found {keys : List String} {index : Nat} {row : Row}
    (someKey : keys ≠ []) (unique : Mapping.Unique row) :
    Succeeds (compileRow keys index row) ↔ row.length = keys.length ∧
      ∀ key ∈ keys, ∃ scalar, (key, .scalar scalar) ∈ row := by
  simp only [← Mapping.value?_eq_some_iff unique, ← @succeeds_cellOf index, ← succeeds_mapM]
  unfold compileRow
  split
  · rename_i empty
    have counted : row.length = 0 := by simpa using empty
    have counts : keys.length ≠ 0 := by simpa using someKey
    simp only [not_succeeds_error, false_iff, not_and]
    omega
  · split
    · rename_i unequal
      simp [unequal]
    · rename_i equal
      simp [not_not.mp equal]

/-- Under keys that occur once a row has a value for each of them and none beside them
when it has exactly these keys. That its length is right makes up for the keys that are
not looked up. -/
theorem succeeds_compileRow {keys : List String} {index : Nat} {row : Row}
    (single : keys.Nodup) (someKey : keys ≠ []) (unique : Mapping.Unique row) :
    Succeeds (compileRow keys index row) ↔
      (∀ key, key ∈ Mapping.keys row ↔ key ∈ keys) ∧
        ∀ field ∈ row, ∃ scalar, field.2 = .scalar scalar := by
  have length : (Mapping.keys row).length = row.length := List.length_map ..
  rw [succeeds_compileRow_iff_found someKey unique]
  constructor
  · rintro ⟨asMany, found⟩
    have inside : keys ⊆ Mapping.keys row := by
      intro key listed
      obtain ⟨scalar, present⟩ := found key listed
      exact List.mem_map_of_mem present
    -- no key of the row is left over, because it has no more keys than were found
    have same : keys.Perm (Mapping.keys row) :=
      (List.Nodup.subperm single inside).perm_of_length_le (by omega)
    refine ⟨fun key => same.mem_iff.symm, ?_⟩
    rintro ⟨key, value⟩ listed
    obtain ⟨scalar, present⟩ := found key (same.mem_iff.mpr (List.mem_map_of_mem listed))
    have value?_eq := (Mapping.value?_eq_some_iff unique).mpr listed
    rw [(Mapping.value?_eq_some_iff unique).mpr present] at value?_eq
    exact ⟨scalar, (Option.some.inj value?_eq).symm⟩
  · rintro ⟨sameKeys, scalars⟩
    have same : (Mapping.keys row).Perm keys :=
      (List.perm_ext_iff_of_nodup unique single).mpr sameKeys
    refine ⟨by rw [← length, same.length_eq], fun key listed => ?_⟩
    obtain ⟨⟨_, value⟩, present, rfl⟩ := List.mem_map.mp ((sameKeys key).mpr listed)
    obtain ⟨scalar, rfl⟩ := scalars _ present
    exact ⟨scalar, present⟩

/-- Rows compile when they have exactly the keys of the first row and hold scalars. -/
theorem succeeds_compileRows {keys : List String} {index : Nat} {rows : List Row}
    (single : keys.Nodup) (someKey : keys ≠ []) (unique : ∀ row ∈ rows, Mapping.Unique row) :
    Succeeds (compileRows keys index rows) ↔
      ∀ row ∈ rows, (∀ key, key ∈ Mapping.keys row ↔ key ∈ keys) ∧
        ∀ field ∈ row, ∃ scalar, field.2 = .scalar scalar := by
  induction rows generalizing index with
  | nil => simp [compileRows]
  | cons row rest ih =>
    obtain ⟨uniqueRow, uniqueRest⟩ := List.forall_mem_cons.mp unique
    rw [compileRows, succeeds_bind_and fun _ _ => succeeds_bind_pure, List.forall_mem_cons,
      succeeds_compileRow single someKey uniqueRow, ih uniqueRest]

/-- An insert compiles when the domain and its rows are well-formed. Keys have to be single here: a
row in which a key stood twice would be too long for its columns. -/
theorem succeeds_compileInsert (unique : request.UniqueKeys) :
    Succeeds (compileInsert metadata request) ↔
      Succeeds request.domainName ∧ request.WellFormedInsert := by
  have ofRows {first : Row} {others : List Row}
      (given : request.data = some (first :: others)) (notEmpty : first ≠ []) :
      Succeeds (compileRows (Mapping.keys first) 0 (first :: others)) ↔
        ∀ row ∈ first :: others, (∀ key, key ∈ Mapping.keys row ↔ key ∈ Mapping.keys first) ∧
          ∀ field ∈ row, ∃ scalar, field.2 = .scalar scalar :=
    succeeds_compileRows (unique _ given first List.mem_cons_self)
      (by simpa [Mapping.keys] using notEmpty) (unique _ given)
  unfold compileInsert
  rw [succeeds_bind, Prod.exists]
  simp only [rows_eq_ok]
  constructor
  · rintro ⟨first, others, given, checked⟩
    obtain ⟨domain, named, checked⟩ := succeeds_bind.mp checked
    split at checked
    · exact absurd checked (not_succeeds_error _)
    · rename_i empty
      have notEmpty : first ≠ [] := by simpa using empty
      rw [succeeds_bind_and fun _ _ => succeeds_bind_pure, ofRows given notEmpty,
        succeeds_forM] at checked
      obtain ⟨plain, rows⟩ := checked
      refine ⟨⟨domain, named⟩, first, others, given, notEmpty, ?_, rows⟩
      intro key listed
      exact succeeds_checkIdentifier.mp (plain key listed)
  · rintro ⟨⟨domain, named⟩, first, others, given, notEmpty, plain, rows⟩
    refine ⟨first, others, given, succeeds_bind.mpr ⟨domain, named, ?_⟩⟩
    rw [if_neg (by simpa using notEmpty), succeeds_bind_and fun _ _ => succeeds_bind_pure,
      ofRows given notEmpty, succeeds_forM]
    exact ⟨fun key listed => succeeds_checkIdentifier.mpr (plain key listed), rows⟩

/-- The name of an operation is its own. -/
theorem ofName?_eq_some_iff {name : String} {operation : Operation} :
    Operation.ofName? name = some operation ↔ name = operation.name := by
  constructor
  · intro found
    simpa [eq_comm] using List.find?_some found
  · rintro rfl
    cases operation <;> decide

/-- A request has an operation when it says the name of it, letter by letter. -/
theorem operationKind_eq_ok {operation : Operation} :
    request.operationKind = .ok operation ↔ request.operation = some operation.name := by
  unfold Request.operationKind
  split
  · rename_i absent
    simp [absent]
  · rename_i empty
    rw [empty]
    cases operation <;> simp [Operation.name]
  · rename_i name _ given
    rw [given, Option.some.injEq, ← ofName?_eq_some_iff]
    cases Operation.ofName? name <;> simp

/-- Work other than an insertion asks for what its operation asks for. The rows of a query
ask for all that their count asks for. -/
theorem succeeds_compileWork_of_ne_insert {operation : Operation}
    (noInsertion : operation ≠ .insert) :
    Succeeds (compileWork metadata request operation).outcome ↔
      Succeeds request.domainName ∧ request.WellFormedFor metadata.paging operation := by
  cases operation with
  | insert => exact absurd rfl noInsertion
  | query =>
    rw [compileWork, Traced.succeeds_bind_and fun _ _ => Traced.succeeds_bind_pure,
      succeeds_compileSelect, compileCount, succeeds_compileAbout]
    constructor
    · rintro ⟨rows, _⟩
      exact rows
    · rintro ⟨domain, wellFormed⟩
      exact ⟨⟨domain, wellFormed⟩, domain, wellFormed.conditions⟩
  | update =>
    rw [compileWork, Traced.succeeds_bind_pure, succeeds_compileUpdate]
    rfl
  | delete =>
    rw [compileWork, Traced.succeeds_bind_pure, compileDelete, succeeds_compileAbout]
    rfl

/-- The work of an operation asks for what the operation asks for. -/
theorem succeeds_compileWork {operation : Operation} (unique : request.UniqueKeys) :
    Succeeds (compileWork metadata request operation).outcome ↔
      Succeeds request.domainName ∧ request.WellFormedFor metadata.paging operation := by
  by_cases insertion : operation = .insert
  · subst insertion
    rw [compileWork, Traced.succeeds_bind_pure, Traced.outcome_liftM,
      succeeds_compileInsert unique]
    rfl
  · exact succeeds_compileWork_of_ne_insert insertion

/-- Work belongs to the operation that it is compiled for. -/
theorem operation_of_compileWork {operation : Operation} {work : Work}
    (compiled : (compileWork metadata request operation).outcome = .ok work) :
    work.operation = operation := by
  cases operation with
  | query =>
    simp only [compileWork, Traced.outcome_bind_eq_ok, Traced.outcome_pure,
      Except.ok.injEq] at compiled
    obtain ⟨_, _, _, _, rfl⟩ := compiled
    rfl
  | insert | update | delete =>
    simp only [compileWork, Traced.outcome_bind_eq_ok, Traced.outcome_pure,
      Except.ok.injEq] at compiled
    obtain ⟨_, _, rfl⟩ := compiled
    rfl

/-- A plan holds the domain of its request and the work of the operation that it names. -/
theorem work_of_compile {plan : Plan} (compiled : (compile metadata request).outcome = .ok plan) :
    request.operationKind = .ok plan.work.operation ∧ request.domainName = .ok plan.domain ∧
      (compileWork metadata request plan.work.operation).outcome = .ok plan.work := by
  simp only [compile, Traced.outcome_bind_eq_ok, Traced.outcome_liftM, Traced.outcome_tell,
    Traced.outcome_pure, Except.ok.injEq] at compiled
  obtain ⟨operation, kind, domain, named, work, compiledWork, _, _, rfl⟩ := compiled
  obtain rfl := operation_of_compileWork compiledWork
  exact ⟨kind, named, compiledWork⟩

/-- Exactly the well-formed requests compile.

The hypothesis is what a mapping is: the rows of a request hold every key once. -/
theorem succeeds_compile_iff (metadata : Metadata) (request : Request)
    (unique : request.UniqueKeys) :
    Succeeds (compile metadata request).outcome ↔ request.WellFormed metadata.paging := by
  unfold compile
  rw [Traced.outcome_bind, succeeds_bind]
  simp only [Traced.outcome_liftM, operationKind_eq_ok]
  refine exists_congr fun operation => and_congr_right fun _ => ?_
  rw [Traced.succeeds_bind_and fun _ _ => Traced.succeeds_bind_and fun _ _ =>
    iff_true_intro (Traced.succeeds_bind_pure.mpr (succeeds_ok _)), Traced.outcome_liftM,
    succeeds_compileWork unique, and_true, ← and_assoc, and_self, succeeds_domainName]

/-- An insertion of two users. The second row has its keys in another order, and the
filters, which no well-formed query could have, are not read. -/
def insertUsers : Request where
  operation := some "insert"
  domain := some "user"
  data := some [[("userName", .text "ann"), ("age", .integer 31)],
    [("age", .null), ("userName", .text "bob")]]
  filters := some [("1=1", .array [])]

/-- An insert of two users is accepted, and it is well-formed. -/
theorem insertUsers_compiles :
    insertUsers.UniqueKeys ∧ Succeeds (compile {} insertUsers).outcome ∧
      insertUsers.WellFormed {} :=
  have unique : insertUsers.UniqueKeys := by
    rintro _ ⟨⟩
    unfold Mapping.Unique
    decide
  have compiled : Succeeds (compile {} insertUsers).outcome := ⟨_, rfl⟩
  ⟨unique, compiled, (succeeds_compile_iff {} insertUsers unique).mp compiled⟩

end

end DomainSql
