import DomainSql.Proofs.Meaning
import Mathlib.Data.List.Perm.Subperm

/-!
# What statements do to a database

Every statement with conditions is about the rows of its table of which all of them
are true. A count gives the number of these rows, a selection some of them in an
order, an update assigns to them and a removal takes them away, and the other rows of
the table are left as they are. The conditions are read on the database as it is
before the statement.

A table is a list here, but the order of its rows has no meaning: what is stated
below is stated up to that order. The rows that a selection gives are arranged by its
ordering, and rows that the ordering does not tell apart may stand in any order, so a
selection may give more than one list.
-/
namespace DomainSql.Sql

namespace Database

/-- All of the conditions are true of a row. -/
def meets (database : Database) (conditions : List Condition) (tuple : Tuple) : Bool :=
  Truth.all (truths database conditions tuple) = some true

/-- The rows of a table of which all conditions are true. -/
def found (database : Database) (table : TableName) (conditions : List Condition) :
    List Tuple :=
  (database.rows table).filter (database.meets conditions)

/-- The other rows of the table. -/
def spared (database : Database) (table : TableName) (conditions : List Condition) :
    List Tuple :=
  (database.rows table).filter fun tuple => !database.meets conditions tuple

/-- A database with other rows in one table. -/
def withRows (database : Database) (table : TableName) (rows : List Tuple) : Database :=
  { database with rows := fun name => if name = table then rows else database.rows name }

/-- A table has the rows that it has been given. -/
@[simp]
theorem rows_withRows (database : Database) (table : TableName) (rows : List Tuple) :
    (database.withRows table rows).rows table = rows := by
  simp [withRows]

/-- The other tables keep theirs. -/
theorem rows_withRows_of_ne {database : Database} {table other : TableName} {rows : List Tuple}
    (different : other ≠ table) :
    (database.withRows table rows).rows other = database.rows other := by
  simp [withRows, different]

/-- The rows that are found and those that are spared are all rows of the table. -/
theorem found_append_spared (database : Database) (table : TableName)
    (conditions : List Condition) :
    (database.found table conditions ++ database.spared table conditions).Perm
      (database.rows table) :=
  List.filter_append_perm ..

end Database

section
variable (database : Database)

/-- The order of two rows by one column. -/
def OrderItem.compare (item : OrderItem) (left right : Tuple) : Ordering :=
  match item.direction with
  | .ascending => database.compare (left item.column) (right item.column)
  | .descending => database.compare (right item.column) (left item.column)

/-- The order of two rows by several columns, of which the first one that tells them
apart decides. -/
def ordering : List OrderItem → Tuple → Tuple → Ordering
  | [] => fun _ _ => .eq
  | item :: rest => compareLex (item.compare database) (ordering rest)

end

/-- The rows of a list that a window gives. -/
def Window.cut (window : Window) (rows : List Tuple) : List Tuple :=
  let behind := rows.drop (window.offset.elim 0 UInt64.toNat)
  window.limit.elim behind fun limit => behind.take limit.toNat

/-- The number of rows that a window gives, if there are `total` rows. -/
def Window.size (window : Window) (total : Nat) : Nat :=
  let behind := total - window.offset.elim 0 UInt64.toNat
  window.limit.elim behind fun limit => min limit.toNat behind

/-- Rows that a selection may give, from which its projection then takes columns. They
are the rows that it finds, arranged by its ordering and cut by its window. -/
def Select.Gives (select : Select) (database : Database) (given : List Tuple) : Prop :=
  ∃ arranged : List Tuple, arranged.Perm (database.found select.source select.conditions) ∧
    arranged.Pairwise (fun left right => (ordering database select.order left right).isLE) ∧
    given = select.window.cut arranged

/-- The number of the rows that a selection finds. -/
def Select.total (select : Select) (database : Database) : Nat :=
  (database.found select.source select.conditions).length

/-- A row after the assignments of an update. Of two assignments to one column the last
one counts. -/
def Update.assign (update : Update) (tuple : Tuple) : Tuple := fun column =>
  (update.assignments.reverse.lookup column).getD (tuple column)

/-- The database after an update. -/
def Update.run (update : Update) (database : Database) : Database :=
  database.withRows update.table ((database.rows update.table).map fun tuple =>
    if database.meets update.conditions tuple then update.assign tuple else tuple)

/-- The database after a removal. -/
def Delete.run (delete : Delete) (database : Database) : Database :=
  database.withRows delete.table (database.spared delete.table delete.conditions)

/-- A window shows as many rows as its size says. -/
theorem Window.length_cut (window : Window) (rows : List Tuple) :
    (window.cut rows).length = window.size rows.length := by
  unfold cut size
  cases window.limit <;> simp

/-- A window shows rows in the order in which they are. -/
theorem Window.cut_sublist (window : Window) (rows : List Tuple) :
    (window.cut rows).Sublist rows := by
  unfold cut
  have behind := List.drop_sublist (window.offset.elim 0 UInt64.toNat) rows
  cases window.limit with
  | none => exact behind
  | some limit => exact (List.take_sublist ..).trans behind

section
variable {database : Database}

/-- Rows are ordered by what they have in a column as these values are. -/
theorem transCmp_column (column : ColumnName) :
    Std.TransCmp fun left right : Tuple => database.compare (left column) (right column) where
  eq_swap := database.ordered.eq_swap
  isLE_trans := database.ordered.isLE_trans

/-- An entry of an ordering orders rows by its column, in either direction. -/
instance (item : OrderItem) : Std.TransCmp (item.compare database) := by
  obtain ⟨column, direction⟩ := item
  have := @transCmp_column database column
  cases direction with
  | ascending => exact this
  | descending => exact @Std.TransCmp.opposite _ _ this

/-- So does an ordering, where every entry decides what those before it leave open. -/
instance (order : List OrderItem) : Std.TransCmp (ordering database order) := by
  induction order with
  | nil => exact { eq_swap := rfl, isLE_trans := fun _ _ => rfl }
  | cons item rest ih =>
    rw [ordering]
    infer_instance

/-- Of two rows one may stand in front of the other. -/
theorem ordering_total (order : List OrderItem) (left right : Tuple) :
    ((ordering database order left right).isLE || (ordering database order right left).isLE) =
      true := by
  rw [@Std.OrientedCmp.eq_swap _ (ordering database order) _ left right]
  cases ordering database order right left <;> rfl

/-- There is always a list of rows that a selection may give. -/
theorem Select.exists_gives (select : Select) (database : Database) :
    ∃ given, select.Gives database given := by
  let le (left right : Tuple) : Bool := (ordering database select.order left right).isLE
  have sorted := @List.pairwise_mergeSort _ le (fun _ _ _ => Std.TransCmp.isLE_trans)
    (ordering_total select.order) (database.found select.source select.conditions)
  exact ⟨_, _, List.mergeSort_perm _ le, sorted, rfl⟩

/-- What a selection gives is part of what it finds, as much of it as its window
allows. -/
theorem Select.Gives.part {select : Select} {given : List Tuple}
    (gives : select.Gives database given) :
    given.Subperm (database.found select.source select.conditions) ∧
      given.length = select.window.size (select.total database) := by
  obtain ⟨arranged, same, _, rfl⟩ := gives
  constructor
  · exact (select.window.cut_sublist arranged).subperm.trans same.subperm
  · rw [Window.length_cut, same.length_eq, total]

/-- A selection without a window gives all that it finds. -/
theorem Select.Gives.all {select : Select} {given : List Tuple} (whole : select.window = {})
    (gives : select.Gives database given) :
    given.Perm (database.found select.source select.conditions) := by
  obtain ⟨arranged, same, _, rfl⟩ := gives
  rw [whole]
  exact same

/-- A removal leaves the other tables as they are. -/
theorem Delete.rows_run_of_ne (delete : Delete) (database : Database) {other : TableName}
    (different : other ≠ delete.table) :
    (delete.run database).rows other = database.rows other :=
  Database.rows_withRows_of_ne different

/-- An update leaves the other tables as they are. -/
theorem Update.rows_run_of_ne (update : Update) (database : Database) {other : TableName}
    (different : other ≠ update.table) :
    (update.run database).rows other = database.rows other :=
  Database.rows_withRows_of_ne different

/-- A removal takes away what it finds. -/
theorem Delete.rows_run (delete : Delete) (database : Database) :
    (database.found delete.table delete.conditions ++
      (delete.run database).rows delete.table).Perm (database.rows delete.table) := by
  rw [run, Database.rows_withRows]
  exact database.found_append_spared delete.table delete.conditions

/-- An update assigns to what it finds and leaves the rest. -/
theorem Update.rows_run (update : Update) (database : Database) :
    ((update.run database).rows update.table).Perm
      ((database.found update.table update.conditions).map update.assign ++
        database.spared update.table update.conditions) := by
  let change (tuple : Tuple) : Tuple :=
    if database.meets update.conditions tuple then update.assign tuple else tuple
  have assigned : (database.found update.table update.conditions).map change =
      (database.found update.table update.conditions).map update.assign := by
    apply List.map_congr_left
    intro tuple inside
    exact if_pos (List.mem_filter.mp inside).2
  have left : (database.spared update.table update.conditions).map change =
      database.spared update.table update.conditions := by
    refine (List.map_congr_left ?_).trans (List.map_id _)
    intro tuple inside
    have unmet := (List.mem_filter.mp inside).2
    exact if_neg (by simpa using unmet)
  have split := (database.found_append_spared update.table update.conditions).symm.map change
  rw [List.map_append, assigned, left] at split
  rw [run, Database.rows_withRows]
  exact split

end

end DomainSql.Sql
