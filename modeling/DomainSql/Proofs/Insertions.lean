import DomainSql.Proofs.Clauses
import DomainSql.Proofs.CompiledParts
import DomainSql.Proofs.EntryMeaning
import DomainSql.Proofs.Refusals

/-!
# What an insertion writes

The first row of an insertion gives the columns, and every row gives a tuple in the order of
the first row's keys. So the place of an argument tells its row and its key, and the order in
which a later row holds its fields leaves no trace.

The rows are checked one after the other. A row is refused if it does not have the keys of
the first row, and the error says which row that is.
-/
namespace DomainSql

open Sql

/-- A row has the keys of the first one, in any order. -/
def SameKeys (first row : Row) : Prop :=
  ∀ key, key ∈ Mapping.keys row ↔ key ∈ Mapping.keys first

/-- The reason to refuse a row for its keys. -/
def keysRefused (index : Nat) (row : Row) : CompileError :=
  if row.isEmpty then .emptyRow index else .inconsistentRow index

/-- A row is the first one whose keys are not those of the first row. -/
def FirstMismatch (first : Row) (rows : List Row) (index : Nat) (row : Row) : Prop :=
  rows[index]? = some row ∧ ¬ SameKeys first row ∧
    ∀ earlier other, earlier < index → rows[earlier]? = some other → SameKeys first other

/-- Every field of a row holds a scalar. -/
def HoldsScalars (row : Row) : Prop := ∀ field ∈ row, ∃ scalar, field.2 = .scalar scalar

/-- A tuple of placeholders. -/
def placeholderTuple (width : Nat) : String :=
  "(" ++ ", ".intercalate (List.replicate width "?") ++ ")"

/-- An insertion gives every field of the rows to the column of its key. -/
structure Inserts (naming : Naming) (table : TableName) (keys : List String) (rows : List Row)
    (prepared : Prepared) : Prop where
  /-- The columns are those of the keys, and every row has a placeholder for each of them. -/
  text : prepared.sql = "INSERT INTO " ++ table ++
    " (" ++ ", ".intercalate (keys.map naming.columnName) ++ ") VALUES " ++
    ", ".intercalate (List.replicate rows.length (placeholderTuple keys.length))
  /-- There are as many arguments as placeholders. -/
  counted : prepared.arguments.length = rows.length * keys.length
  /-- The place of an argument tells its row and its key. -/
  placed : ∀ i j row key, rows[i]? = some row → keys[j]? = some key →
    ∃ scalar, Mapping.value? row key = some (.scalar scalar) ∧
      prepared.arguments[i * keys.length + j]? = some scalar
  /-- Every field has one place. -/
  once : ∀ i row key value, rows[i]? = some row → (key, value) ∈ row →
    ∃ scalar, value = .scalar scalar ∧ ∃! j, keys[j]? = some key ∧
      prepared.arguments[i * keys.length + j]? = some scalar

/-! ### Rows in the order of the first row's keys -/

section
variable {keys : List String} {index : Nat} {row : Row}

/-- A cell is what the row holds under the key of its column, as a scalar. -/
theorem cellOf_eq_ok {key : String} {scalar : Scalar} :
    cellOf index row key = .ok scalar ↔ Mapping.value? row key = some (.scalar scalar) := by
  unfold cellOf
  split
  · rename_i absent
    simp [absent]
  · rename_i value present
    rw [present, scalarOf_eq_ok, Option.some.injEq]

/-- A compiled row has the scalars that it holds under the keys, in the order of the keys. -/
theorem cells_of_compileRow {cells : List Scalar}
    (compiled : compileRow keys index row = .ok cells) :
    List.Forall₂ (fun key cell => Mapping.value? row key = some (.scalar cell)) keys cells := by
  unfold compileRow at compiled
  split at compiled
  · cases compiled
  · split at compiled
    · cases compiled
    · simpa only [mapM_eq_ok, cellOf_eq_ok] using compiled

/-- Compiled rows have the scalars of the rows one by one. -/
theorem cells_of_compileRows {rows : List Row} {values : List (List Scalar)}
    (compiled : compileRows keys index rows = .ok values) :
    List.Forall₂ (fun row cells =>
      List.Forall₂ (fun key cell => Mapping.value? row key = some (.scalar cell)) keys cells)
      rows values := by
  induction rows generalizing index values with
  | nil =>
    cases compiled
    exact .nil
  | cons row rest ih =>
    simp only [compileRows, bind_eq_ok, pure_eq_ok] at compiled
    obtain ⟨cells, compiledRow, others, compiledRest, rfl⟩ := compiled
    exact .cons (cells_of_compileRow compiledRow) (ih compiledRest)

/-- A row of scalars is refused for its keys if they are not the first row's. Looking up a
key in vain is the only way to fail, because what is found is a scalar. -/
theorem compileRow_of_mismatch {first : Row} (notEmpty : first ≠ [])
    (uniqueFirst : Mapping.Unique first) (unique : Mapping.Unique row)
    (scalars : HoldsScalars row) (mismatch : ¬ SameKeys first row) :
    compileRow (Mapping.keys first) index row = .error (keysRefused index row) := by
  have someKey : Mapping.keys first ≠ [] := by simpa [Mapping.keys] using notEmpty
  have fails : ¬ Succeeds (compileRow (Mapping.keys first) index row) := by
    rw [succeeds_compileRow uniqueFirst someKey unique]
    exact fun same => mismatch same.1
  cases compiled : compileRow (Mapping.keys first) index row with
  | ok cells => exact absurd ⟨cells, compiled⟩ fails
  | error reason =>
    unfold compileRow at compiled
    unfold keysRefused
    split at compiled
    · rename_i empty
      rw [if_pos empty]
      exact compiled.symm
    · rename_i filled
      rw [if_neg filled]
      split at compiled
      · exact compiled.symm
      · obtain ⟨key, _, failed⟩ := exists_entry_of_mapM_eq_error compiled
        unfold cellOf at failed
        split at failed
        · cases failed
          rfl
        · rename_i value present
          obtain ⟨scalar, rfl⟩ := scalars _ ((Mapping.value?_eq_some_iff unique).mp present)
          cases failed

end

section
variable {first row : Row} {rest : List Row} {index : Nat} {found : Row}

/-- If the row in front does not have the keys, it is the first one. -/
theorem firstMismatch_cons_of_not (mismatch : ¬ SameKeys first row) :
    FirstMismatch first (row :: rest) index found ↔ index = 0 ∧ found = row := by
  constructor
  · rintro ⟨listed, _, before⟩
    cases index with
    | zero => exact ⟨rfl, (Option.some.inj listed).symm⟩
    | succ index => exact absurd (before 0 row (Nat.succ_pos index) rfl) mismatch
  · rintro ⟨rfl, rfl⟩
    exact ⟨rfl, mismatch, fun earlier _ before => absurd before (Nat.not_lt_zero earlier)⟩

/-- If the row in front has the keys, the first one that does not is behind it. -/
theorem firstMismatch_cons (same : SameKeys first row) :
    FirstMismatch first (row :: rest) index found ↔
      ∃ before, index = before + 1 ∧ FirstMismatch first rest before found := by
  constructor
  · rintro ⟨listed, mismatch, before⟩
    cases index with
    | zero => exact absurd (Option.some.inj listed ▸ same) mismatch
    | succ index =>
      exact ⟨index, rfl, listed, mismatch, fun earlier other less present =>
        before (earlier + 1) other (Nat.succ_lt_succ less) present⟩
  · rintro ⟨index, rfl, listed, mismatch, before⟩
    refine ⟨listed, mismatch, fun earlier other less present => ?_⟩
    cases earlier with
    | zero => exact Option.some.inj present ▸ same
    | succ earlier => exact before earlier other (Nat.lt_of_succ_lt_succ less) present

/-- Rows of scalars are refused for the first one whose keys are not the first row's. -/
theorem compileRows_eq_error {rows : List Row} {reason : CompileError} (notEmpty : first ≠ [])
    (uniqueFirst : Mapping.Unique first) (unique : ∀ row ∈ rows, Mapping.Unique row)
    (scalars : ∀ row ∈ rows, HoldsScalars row) :
    compileRows (Mapping.keys first) index rows = .error reason ↔
      ∃ offset row, FirstMismatch first rows offset row ∧
        reason = keysRefused (index + offset) row := by
  induction rows generalizing index with
  | nil => simp [compileRows, FirstMismatch]
  | cons row rest ih =>
    obtain ⟨uniqueRow, uniqueRest⟩ := List.forall_mem_cons.mp unique
    obtain ⟨scalarsRow, scalarsRest⟩ := List.forall_mem_cons.mp scalars
    by_cases same : SameKeys first row
    · have someKey : Mapping.keys first ≠ [] := by simpa [Mapping.keys] using notEmpty
      obtain ⟨cells, compiled⟩ : Succeeds (compileRow (Mapping.keys first) index row) :=
        (succeeds_compileRow uniqueFirst someKey uniqueRow).mpr ⟨same, scalarsRow⟩
      rw [compileRows, compiled, ok_bind, bind_pure_eq_error, ih uniqueRest scalarsRest]
      simp only [firstMismatch_cons same]
      constructor
      · rintro ⟨offset, found, isFirst, rfl⟩
        refine ⟨offset + 1, found, ⟨offset, rfl, isFirst⟩, ?_⟩
        rw [Nat.add_assoc, Nat.add_comm 1]
      · rintro ⟨_, found, ⟨offset, rfl, isFirst⟩, rfl⟩
        exact ⟨offset, found, isFirst, by rw [Nat.add_assoc, Nat.add_comm 1]⟩
    · rw [compileRows, compileRow_of_mismatch notEmpty uniqueFirst uniqueRow scalarsRow same]
      simp only [firstMismatch_cons_of_not same]
      constructor
      · rintro ⟨⟩
        exact ⟨0, row, ⟨rfl, rfl⟩, rfl⟩
      · rintro ⟨_, _, ⟨rfl, rfl⟩, rfl⟩
        rfl

end

/-! ### Fields in another order -/

/-- A mapping in another order holds the same values. -/
theorem Mapping.value?_of_perm {entries others : Mapping} (unique : Unique entries)
    (permuted : entries.Perm others) (key : String) : value? others key = value? entries key := by
  have uniqueToo : Unique others := (permuted.map Prod.fst).nodup_iff.mp unique
  ext value
  rw [value?_eq_some_iff unique, value?_eq_some_iff uniqueToo, permuted.mem_iff]

/-- The order of a row's fields makes no difference to what it is compiled into. -/
theorem compileRow_of_perm {row other : Row} (unique : Mapping.Unique row)
    (permuted : row.Perm other) (keys : List String) (index : Nat) :
    compileRow keys index other = compileRow keys index row := by
  have cells : cellOf index other = cellOf index row := by
    funext key
    rw [cellOf, cellOf, Mapping.value?_of_perm unique permuted]
  have emptyToo : other.isEmpty = row.isEmpty := by
    rw [Bool.eq_iff_iff, List.isEmpty_iff_length_eq_zero, List.isEmpty_iff_length_eq_zero,
      permuted.length_eq]
  rw [compileRow, compileRow, cells, emptyToo, permuted.length_eq]

/-- The order of fields makes no difference in any of the rows. -/
theorem compileRows_of_perm {rows others : List Row} (unique : ∀ row ∈ rows, Mapping.Unique row)
    (permuted : List.Forall₂ List.Perm rows others) (keys : List String) (index : Nat) :
    compileRows keys index others = compileRows keys index rows := by
  induction permuted generalizing index with
  | nil => rfl
  | cons first _ ih =>
    obtain ⟨uniqueRow, uniqueRest⟩ := List.forall_mem_cons.mp unique
    rw [compileRows, compileRows, compileRow_of_perm uniqueRow first, ih uniqueRest]

/-! ### Tuples in a row -/

/-- In a row of tuples of one width, the place of a cell tells its tuple and its place there. -/
theorem getElem?_flatten_of_width {α : Type} {tuples : List (List α)} {width : Nat}
    (wide : ∀ tuple ∈ tuples, tuple.length = width) {i j : Nat} (inside : j < width) :
    tuples.flatten[i * width + j]? = tuples[i]?.bind (·[j]?) := by
  induction tuples generalizing i with
  | nil => simp
  | cons tuple rest ih =>
    obtain ⟨asWide, restWide⟩ := List.forall_mem_cons.mp wide
    cases i with
    | zero =>
      rw [List.flatten_cons, Nat.zero_mul, Nat.zero_add,
        List.getElem?_append_left (asWide ▸ inside)]
      rfl
    | succ i =>
      have behind : (i + 1) * width + j = tuple.length + (i * width + j) := by
        rw [asWide, Nat.succ_mul]
        omega
      rw [List.flatten_cons, behind, List.getElem?_append_right (Nat.le_add_right _ _),
        Nat.add_sub_cancel_left, ih restWide]
      rfl

namespace Sql

/-- The values of a row are bound in their order. -/
theorem arguments_valueList (values : List Scalar) :
    (prepare (valueList values)).arguments = values := by
  have places : (prepare (separated ", " (values.map fun value => [.place value]))).arguments =
      values := by
    rw [arguments_separated, List.flatMap_map]
    exact List.flatMap_singleton' values
  rw [valueList, arguments_text, arguments_prepare_append, places]
  exact List.append_nil values

/-- The arguments of an insertion are those of its rows, one row after the other. -/
theorem Insert.arguments_render (insert : Insert) :
    (prepare insert.render).arguments = insert.rows.flatten := by
  have names : (prepare (nameList insert.columns)).arguments = [] :=
    arguments_projection (.columns insert.columns)
  have rows : (prepare (separated ", " (insert.rows.map valueList))).arguments =
      insert.rows.flatten := by
    rw [arguments_separated, List.flatMap_map, List.flatten_eq_flatMap]
    exact List.flatMap_congr fun row _ => arguments_valueList row
  rw [render, arguments_text, arguments_text, arguments_text, arguments_prepare_append,
    arguments_text, names, rows, List.nil_append]

/-- The text of an insertion. -/
theorem Insert.sql_render (insert : Insert) :
    (prepare insert.render).sql = "INSERT INTO " ++ insert.table ++
      " (" ++ ", ".intercalate insert.columns ++ ") VALUES " ++
      ", ".intercalate (insert.rows.map (spelledValues fun _ => "?")) := by
  simp [sql_prepare, spell_insert, Insert.spelled, String.append_assoc]

end Sql

/-! ### Requests for an insertion -/

section
variable {metadata : Metadata} {request : Request} {domain : String} {first : Row}
variable {others : List Row}

/-- Where domain and first row are accepted, an insertion is as good as its rows. -/
theorem compileInsert_eq_rows (data : request.data = some (first :: others))
    (named : request.domainName = .ok domain) (notEmpty : first ≠ [])
    (plain : ∀ key ∈ Mapping.keys first, isIdentifier key = true) :
    compileInsert metadata request = (do
      let rows ← compileRows (Mapping.keys first) 0 (first :: others)
      return ⟨metadata.naming.tableName domain,
        (Mapping.keys first).map metadata.naming.columnName, rows⟩) := by
  have filled : ¬ first.isEmpty = true := by simpa using notEmpty
  have checked : ((Mapping.keys first).forM fun key => checkIdentifier key key) = .ok () :=
    forM_eq_ok.mpr fun key listed => checkIdentifier_eq_ok.mpr (plain key listed)
  rw [compileInsert, rows_eq_ok.mpr data, ok_bind]
  simp only [named, ok_bind, if_neg filled, checked]

/-- An insertion is compiled from the rows of a request with an accepted domain. -/
theorem exists_rows_of_compileInsert {insert : Insert}
    (compiled : compileInsert metadata request = .ok insert) :
    ∃ first others domain rows, request.data = some (first :: others) ∧
      request.domainName = .ok domain ∧
      compileRows (Mapping.keys first) 0 (first :: others) = .ok rows ∧
      insert = ⟨metadata.naming.tableName domain,
        (Mapping.keys first).map metadata.naming.columnName, rows⟩ := by
  obtain ⟨⟨first, others⟩, given, compiled⟩ := bind_eq_ok.mp compiled
  obtain ⟨domain, named, compiled⟩ := bind_eq_ok.mp compiled
  split at compiled
  · cases compiled
  · obtain ⟨_, _, compiled⟩ := bind_eq_ok.mp compiled
    obtain ⟨rows, compiledRows, rfl⟩ := bind_pure_eq_ok.mp compiled
    exact ⟨first, others, domain, rows, rows_eq_ok.mp given, named, compiledRows, rfl⟩

/-- Compiled rows have the keys of the first one, and hold scalars. -/
theorem sameKeys_of_compileRows {values : List (List Scalar)}
    (unique : ∀ row ∈ first :: others, Mapping.Unique row)
    (compiled : compileRows (Mapping.keys first) 0 (first :: others) = .ok values) :
    ∀ row ∈ first :: others, SameKeys first row ∧ HoldsScalars row := by
  have someKey : Mapping.keys first ≠ [] := by
    rintro none
    obtain rfl : first = [] := List.map_eq_nil_iff.mp none
    cases compiled
  have uniqueFirst := unique first List.mem_cons_self
  exact (succeeds_compileRows uniqueFirst someKey unique).mp ⟨values, compiled⟩

/-- The place of a cell among all cells of compiled rows tells its row and its key. -/
theorem getElem?_flatten_of_compileRows {keys : List String} {rows : List Row}
    {values : List (List Scalar)} (compiled : compileRows keys 0 rows = .ok values) {i j : Nat}
    {row : Row} {key : String} (rowAt : rows[i]? = some row) (keyAt : keys[j]? = some key) :
    ∃ scalar, Mapping.value? row key = some (.scalar scalar) ∧
      values.flatten[i * keys.length + j]? = some scalar := by
  obtain ⟨_, wide⟩ := length_compileRows compiled
  obtain ⟨cells, cellsAt, ofRow⟩ := exists_result_of_getElem? (cells_of_compileRows compiled) rowAt
  obtain ⟨scalar, scalarAt, found⟩ := exists_result_of_getElem? ofRow keyAt
  have inside := (List.getElem?_eq_some_iff.mp keyAt).1
  refine ⟨scalar, found, ?_⟩
  rw [getElem?_flatten_of_width wide inside, cellsAt]
  exact scalarAt

/-- Compiled rows are spelled as equal tuples of placeholders. -/
theorem spelledValues_of_compileRows {keys : List String} {rows : List Row}
    {values : List (List Scalar)} (compiled : compileRows keys 0 rows = .ok values) :
    values.map (spelledValues fun _ => "?") =
      List.replicate rows.length (placeholderTuple keys.length) := by
  obtain ⟨asMany, wide⟩ := length_compileRows compiled
  have tuple : ∀ row ∈ values,
      spelledValues (fun _ => "?") row = placeholderTuple keys.length := by
    intro row listed
    rw [spelledValues, List.map_const', wide row listed]
    rfl
  rw [List.map_congr_left tuple, List.map_const', asMany]

/-- Compiled rows are inserted field by field. -/
theorem Inserts.of_compileRows {naming : Naming} {table : TableName} {values : List (List Scalar)}
    (unique : ∀ row ∈ first :: others, Mapping.Unique row)
    (compiled : compileRows (Mapping.keys first) 0 (first :: others) = .ok values) :
    Inserts naming table (Mapping.keys first) (first :: others)
      (Statement.insert
        ⟨table, (Mapping.keys first).map naming.columnName, values⟩).prepare := by
  have arguments : (Statement.insert
      ⟨table, (Mapping.keys first).map naming.columnName, values⟩).prepare.arguments =
        values.flatten := Insert.arguments_render _
  constructor
  case text =>
    rw [Statement.prepare, Statement.render, Insert.sql_render,
      spelledValues_of_compileRows compiled]
  case counted =>
    obtain ⟨asMany, wide⟩ := length_compileRows compiled
    rw [arguments, List.length_flatten, List.map_congr_left wide, List.map_const',
      List.sum_replicate_nat, asMany]
  case placed =>
    intro i j row key rowAt keyAt
    rw [arguments]
    exact getElem?_flatten_of_compileRows compiled rowAt keyAt
  case once =>
    intro i row key value rowAt fieldListed
    have rowListed := List.mem_of_getElem? rowAt
    obtain ⟨same, _⟩ := sameKeys_of_compileRows unique compiled row rowListed
    have keyListed : key ∈ Mapping.keys first := (same key).mp (List.mem_map_of_mem fieldListed)
    obtain ⟨j, keyAt⟩ := List.getElem?_of_mem keyListed
    obtain ⟨scalar, found, argument⟩ := getElem?_flatten_of_compileRows compiled rowAt keyAt
    rw [(Mapping.value?_eq_some_iff (unique row rowListed)).mpr fieldListed] at found
    rw [arguments]
    refine ⟨scalar, Option.some.inj found, j, ⟨keyAt, argument⟩, ?_⟩
    rintro k ⟨keyAtToo, _⟩
    have inside := (List.getElem?_eq_some_iff.mp keyAtToo).1
    exact (List.getElem?_inj inside (unique first List.mem_cons_self)).mp
      (keyAtToo.trans keyAt.symm)

/-- A request for an insertion ends as its insertion does. -/
theorem compile_eq_insert (insertion : request.operation = some Operation.insert.name) :
    (compile metadata request).outcome = (do
      let domain ← request.domainName
      let insert ← compileInsert metadata request
      return { domain, work := .insert insert }) := by
  rw [compile_eq_work (operationKind_eq_ok.mpr insertion)]
  simp only [compileWork, Traced.outcome_bind, Traced.outcome_liftM, Traced.outcome_pure]
  cases request.domainName with
  | error reason => rfl
  | ok domain => cases compileInsert metadata request <;> rfl

/-- A compiled insertion has one statement, which gives every field to its column. -/
theorem exists_inserts_of_compile {plan : Plan}
    (insertion : request.operation = some Operation.insert.name) (unique : request.UniqueKeys)
    (compiled : (compile metadata request).outcome = .ok plan) :
    ∃ domain first others prepared, request.domain = some domain ∧
      request.data = some (first :: others) ∧ plan.prepared = [prepared] ∧
      Inserts metadata.naming (metadata.naming.tableName domain) (Mapping.keys first)
        (first :: others) prepared := by
  rw [compile_eq_insert insertion] at compiled
  obtain ⟨_, _, compiled⟩ := bind_eq_ok.mp compiled
  obtain ⟨insert, compiledInsert, rfl⟩ := bind_pure_eq_ok.mp compiled
  obtain ⟨first, others, domain, rows, data, named, compiledRows, rfl⟩ :=
    exists_rows_of_compileInsert compiledInsert
  exact ⟨domain, first, others, _, (domainName_eq_ok.mp named).1, data, rfl,
    .of_compileRows (unique _ data) compiledRows⟩

/-- An insertion ends alike if the fields of rows behind the first one stand in another
order. -/
theorem compile_of_perm {reordered : List Row}
    (insertion : request.operation = some Operation.insert.name)
    (data : request.data = some (first :: others))
    (unique : ∀ row ∈ others, Mapping.Unique row)
    (permuted : List.Forall₂ List.Perm others reordered) :
    (compile metadata { request with data := some (first :: reordered) }).outcome =
      (compile metadata request).outcome := by
  have sameRows (index : Nat) : compileRows (Mapping.keys first) index (first :: reordered) =
      compileRows (Mapping.keys first) index (first :: others) := by
    rw [compileRows, compileRows, compileRows_of_perm unique permuted]
  have sameInsert : compileInsert metadata { request with data := some (first :: reordered) } =
      compileInsert metadata request := by
    rw [compileInsert, compileInsert, rows_eq_ok.mpr data, ok_bind]
    simp only [← sameRows]
    rfl
  have insertionToo : ({ request with data := some (first :: reordered) } : Request).operation =
    some Operation.insert.name := insertion
  rw [compile_eq_insert insertion, compile_eq_insert insertionToo, sameInsert]
  rfl

/-- Where domain and first row are accepted, a request for an insertion ends as its rows do. -/
theorem compile_eq_rows (insertion : request.operation = some Operation.insert.name)
    (data : request.data = some (first :: others)) (named : request.domainName = .ok domain)
    (notEmpty : first ≠ []) (plain : ∀ key ∈ Mapping.keys first, isIdentifier key = true) :
    (compile metadata request).outcome = (do
      let rows ← compileRows (Mapping.keys first) 0 (first :: others)
      return { domain, work := .insert ⟨metadata.naming.tableName domain,
        (Mapping.keys first).map metadata.naming.columnName, rows⟩ }) := by
  rw [compile_eq_insert insertion, compileInsert_eq_rows data named notEmpty plain, named, ok_bind]
  cases compileRows (Mapping.keys first) 0 (first :: others) <;> rfl

/-- Rows of scalars are compiled when all of them have the keys of the first one. -/
theorem succeeds_compileRows_iff_sameKeys (notEmpty : first ≠ [])
    (unique : ∀ row ∈ first :: others, Mapping.Unique row)
    (scalars : ∀ row ∈ first :: others, HoldsScalars row) :
    Succeeds (compileRows (Mapping.keys first) 0 (first :: others)) ↔
      ∀ row ∈ others, SameKeys first row := by
  have someKey : Mapping.keys first ≠ [] := by simpa [Mapping.keys] using notEmpty
  rw [succeeds_compileRows (unique first List.mem_cons_self) someKey unique]
  constructor
  · intro each row listed
    exact (each row (List.mem_cons_of_mem first listed)).1
  · intro each row listed
    have same : ∀ row ∈ first :: others, SameKeys first row :=
      List.forall_mem_cons.mpr ⟨fun _ => Iff.rfl, each⟩
    exact ⟨same row listed, scalars row listed⟩

end

/-- An insertion that compiles gives every field of every row to the column of its key, and
nothing else. The fields of every row but the first may stand in any order. An insertion with
plain names and scalars is refused exactly when a row has not the keys of the first one, and
the error tells the first such row.

The hypothesis on the keys is what a mapping is: the rows of a request hold every key once. -/
theorem rows_inserted (metadata : Metadata) (request : Request)
    (insertion : request.operation = some Operation.insert.name) (unique : request.UniqueKeys) :
    (∀ plan, (compile metadata request).outcome = .ok plan →
      ∃ domain first others prepared, request.domain = some domain ∧
        request.data = some (first :: others) ∧ plan.prepared = [prepared] ∧
        Inserts metadata.naming (metadata.naming.tableName domain) (Mapping.keys first)
          (first :: others) prepared) ∧
    (∀ (first : Row) (others reordered : List Row), request.data = some (first :: others) →
      List.Forall₂ List.Perm others reordered →
      (compile metadata { request with data := some (first :: reordered) }).outcome =
        (compile metadata request).outcome) ∧
    ∀ domain first others, request.domain = some domain → isIdentifier domain = true →
      request.data = some (first :: others) → first ≠ [] →
      (∀ key ∈ Mapping.keys first, isIdentifier key = true) →
      (∀ row ∈ first :: others, HoldsScalars row) →
      (¬ Succeeds (compile metadata request).outcome ↔ ∃ row ∈ others, ¬ SameKeys first row) ∧
      ∀ error, (compile metadata request).outcome = .error error ↔
        ∃ index row, FirstMismatch first (first :: others) index row ∧
          error = keysRefused index row := by
  refine ⟨fun plan compiled => exists_inserts_of_compile insertion unique compiled, ?_, ?_⟩
  · intro first others reordered data permuted
    have uniqueOthers : ∀ row ∈ others, Mapping.Unique row := fun row listed =>
      unique _ data row (List.mem_cons_of_mem first listed)
    exact compile_of_perm insertion data uniqueOthers permuted
  · intro domain first others given plainDomain data notEmpty plain scalars
    have uniqueRows := unique _ data
    have uniqueFirst := uniqueRows first List.mem_cons_self
    have named := domainName_eq_ok.mpr ⟨given, plainDomain⟩
    rw [compile_eq_rows insertion data named notEmpty plain]
    refine ⟨?_, fun error => ?_⟩
    · rw [succeeds_bind_pure, succeeds_compileRows_iff_sameKeys notEmpty uniqueRows scalars]
      simp only [not_forall, exists_prop]
    · rw [bind_pure_eq_error, compileRows_eq_error notEmpty uniqueFirst uniqueRows scalars]
      simp only [Nat.zero_add]

/-- Two users; the second one has the fields in another order. -/
def shuffledUsers : Request where
  operation := some "insert"
  domain := some "user"
  data := some [[("userName", .text "ann"), ("age", .integer 31)],
    [("age", .null), ("userName", .text "bob")]]

/-- Four users, of whom the third one has another field and the last one has none. -/
def raggedUsers : Request where
  operation := some "insert"
  domain := some "user"
  data := some [[("userName", .text "ann"), ("age", .integer 31)],
    [("age", .null), ("userName", .text "bob")],
    [("userName", .text "cid"), ("mail", .text "cid@home")], []]

example : (compile {} shuffledUsers).outcome.map Plan.prepared =
    .ok [⟨"INSERT INTO t_user (user_name, age) VALUES (?, ?), (?, ?)",
      [.text "ann", .number (.integer 31), .text "bob", .null]⟩] := by
  rfl

/-- Users are inserted under the columns of the first one, whatever the order of the others' fields,
and of four users the third is refused, which is the first with other keys. -/
theorem users_inserted :
    shuffledUsers.UniqueKeys ∧ raggedUsers.UniqueKeys ∧
    (∃ plan prepared, (compile {} shuffledUsers).outcome = .ok plan ∧
      plan.prepared = [prepared] ∧
      Inserts {} "t_user" ["userName", "age"]
        [[("userName", .text "ann"), ("age", .integer 31)],
          [("age", .null), ("userName", .text "bob")]] prepared) ∧
    (compile {} { shuffledUsers with
        data := some [[("userName", .text "ann"), ("age", .integer 31)],
          [("userName", .text "bob"), ("age", .null)]] }).outcome =
      (compile {} shuffledUsers).outcome ∧
    (compile {} raggedUsers).outcome = .error (.inconsistentRow 2) := by
  have shuffledUnique : shuffledUsers.UniqueKeys := by
    rintro _ ⟨⟩
    unfold Mapping.Unique
    decide
  have raggedUnique : raggedUsers.UniqueKeys := by
    rintro _ ⟨⟩
    unfold Mapping.Unique
    decide
  obtain ⟨inserted, inAnyOrder, _⟩ := rows_inserted {} shuffledUsers rfl shuffledUnique
  obtain ⟨_, _, refused⟩ := rows_inserted {} raggedUsers rfl raggedUnique
  refine ⟨shuffledUnique, raggedUnique, ?_, ?_, ?_⟩
  · obtain ⟨plan, compiled⟩ : Succeeds (compile {} shuffledUsers).outcome := ⟨_, rfl⟩
    obtain ⟨_, _, _, prepared, ⟨⟩, ⟨⟩, shown, inserts⟩ := inserted plan compiled
    exact ⟨plan, prepared, compiled, shown, inserts⟩
  · exact inAnyOrder _ _ _ rfl (.cons (.swap _ _ _) .nil)
  · refine ((refused "user" _ _ rfl (by decide) rfl (by decide) (by decide) ?_).2 _).mpr
      ⟨2, _, ⟨rfl, fun same => ?_, ?_⟩, rfl⟩
    · simp only [HoldsScalars, List.forall_mem_cons]
      simp
    · exact absurd ((same "mail").mp (by decide)) (by decide)
    · intro earlier other less present
      have early : earlier = 0 ∨ earlier = 1 := by omega
      rcases early with rfl | rfl
      · cases present
        exact fun _ => Iff.rfl
      · cases present
        simp [SameKeys, Mapping.keys, or_comm]

end DomainSql
