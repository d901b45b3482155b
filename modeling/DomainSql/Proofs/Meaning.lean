import DomainSql.Sql.Statement

/-!
# What conditions mean

A database gives every table as a list of rows, and a row has a value in every
column. Conditions are read with three truth values: a comparison with null is
neither true nor false but unknown, and only rows of which a condition is true are
kept.

How two values that are not null compare is the database's own business, and so is
what a pattern matches. Its order is taken to be a total one that may count
different values as equal, such as a whole number and the double next to it;
equality is then an equivalence, which is what an intersection of selected values
relies on.
-/
namespace DomainSql

namespace Scalar

/-- The kinds of values, in the order in which they are sorted. -/
def kind : Scalar → Nat
  | .null => 0
  | .bool _ => 1
  | .number _ => 2
  | .text _ => 3

/-- The magnitude of a value in units of the smallest double. A truth value counts
as one or zero, and a text has none. -/
def magnitude : Scalar → Int
  | .null | .text _ => 0
  | .bool value => value.toNat
  | .number (.integer value) => value * Binary64.unitsOfOne
  | .number (.double value) => if value.negative then -value.units else value.units

/-- The letters of a text; other values have none. -/
def letters : Scalar → String
  | .text letters => letters
  | _ => ""

/-- The usual order of values: by kind, numbers by magnitude, texts letter by
letter. A whole number is equal to the double of its magnitude. -/
def usualOrder : Scalar → Scalar → Ordering :=
  compareLex (compareOn kind) (compareLex (compareOn magnitude) (compareOn letters))

end Scalar

namespace Sql

/-- A truth value; nothing stands for unknown. -/
abbrev Truth := Option Bool

namespace Truth

/-- At least one is true. An unknown one leaves it open as long as none is true. -/
def any (truths : List Truth) : Truth :=
  if some true ∈ truths then some true else if none ∈ truths then none else some false

/-- All are true. An unknown one leaves it open as long as none is false. -/
def all (truths : List Truth) : Truth :=
  if some false ∈ truths then some false else if none ∈ truths then none else some true

/-- The opposite; unknown stays unknown. -/
def negation : Truth → Truth := Option.map Bool.not

/-- Alternatives are true exactly when one of them is. -/
theorem any_eq_true {truths : List Truth} : any truths = some true ↔ some true ∈ truths := by
  unfold any
  split
  · simp [*]
  · split <;> simp [*]

/-- Truths are true together exactly when each of them is. -/
theorem all_eq_true {truths : List Truth} :
    all truths = some true ↔ ∀ truth ∈ truths, truth = some true := by
  unfold all
  constructor
  · intro allTrue truth inside
    split at allTrue
    · simp at allTrue
    · rename_i noneFalse
      split at allTrue
      · simp at allTrue
      · rename_i noneOpen
        match truth with
        | some true => rfl
        | some false => exact absurd inside noneFalse
        | none => exact absurd inside noneOpen
  · intro each
    have noneFalse : some false ∉ truths := fun inside => by simpa using each _ inside
    have noneOpen : none ∉ truths := fun inside => by simpa using each _ inside
    simp [noneFalse, noneOpen]

end Truth

/-- A row as a database holds it: a value for every column. -/
abbrev Tuple := ColumnName → Scalar

/-- The rows of every table, and how values compare. -/
structure Database where
  rows : TableName → List Tuple
  /-- The order of two values that are not null. -/
  compare : Scalar → Scalar → Ordering
  /-- A value is matched by a pattern, neither of them null. -/
  like : Scalar → Scalar → Bool
  ordered : Std.TransCmp compare

namespace Database

/-- A database in which values have the usual order. -/
def usual (rows : TableName → List Tuple) (like : Scalar → Scalar → Bool) : Database where
  rows
  compare := Scalar.usualOrder
  like
  ordered := by unfold Scalar.usualOrder; infer_instance

/-- A comparison of two values that are not null. -/
def relates (database : Database) (left right : Scalar) : Comparison → Bool
  | .equal => database.compare left right = .eq
  | .notEqual => database.compare left right ≠ .eq
  | .greater => database.compare left right = .gt
  | .greaterOrEqual => database.compare left right ≠ .lt
  | .less => database.compare left right = .lt
  | .lessOrEqual => database.compare left right ≠ .gt
  | .like => database.like left right
  | .notLike => !database.like left right

/-- A comparison of two values; with null it is unknown. -/
def compared (database : Database) (left : Scalar) (relation : Comparison)
    (right : Scalar) : Truth :=
  if left = .null ∨ right = .null then none else some (database.relates left right relation)

/-- A value is equal to one of the values. -/
def among (database : Database) (value : Scalar) (values : List Scalar) : Truth :=
  Truth.any (values.map (database.compared value .equal))

/-- Two values are equal, neither of them null. -/
def Same (database : Database) (left right : Scalar) : Prop :=
  database.compared left .equal right = some true

/-- Whether values are equal is decided by the comparison of the database. -/
instance (database : Database) (left right : Scalar) : Decidable (database.Same left right) :=
  inferInstanceAs (Decidable (_ = _))

/-- The values that all lists have. Unlike a comparison, an intersection takes null
for equal to null. -/
def common (database : Database) : List (List Scalar) → List Scalar
  | [] => []
  | first :: others => first.filter fun value =>
    others.all fun values => values.any fun other => value = other ∨ database.Same value other

/-- Two values are the same when neither is null and neither is in front of the other. -/
theorem same_iff {database : Database} {left right : Scalar} :
    database.Same left right ↔
      left ≠ .null ∧ right ≠ .null ∧ database.compare left right = .eq := by
  unfold Same compared
  split
  · rename_i oneNull
    constructor
    · intro unknown
      simp at unknown
    · rintro ⟨leftPresent, rightPresent, _⟩
      rcases oneNull with leftNull | rightNull
      · exact absurd leftNull leftPresent
      · exact absurd rightNull rightPresent
  · rename_i present
    simp only [relates, Option.some.injEq, decide_eq_true_eq]
    grind

/-- Being the same goes both ways. -/
theorem Same.symm {database : Database} {left right : Scalar}
    (same : database.Same left right) : database.Same right left := by
  obtain ⟨leftPresent, rightPresent, equal⟩ := same_iff.mp same
  have := database.ordered
  exact same_iff.mpr ⟨rightPresent, leftPresent, Std.OrientedCmp.eq_symm equal⟩

/-- Values that are the same as a third one are the same. -/
theorem Same.trans {database : Database} {first second third : Scalar}
    (left : database.Same first second) (right : database.Same second third) :
    database.Same first third := by
  obtain ⟨firstPresent, _, leftEqual⟩ := same_iff.mp left
  obtain ⟨_, thirdPresent, rightEqual⟩ := same_iff.mp right
  have := database.ordered
  exact same_iff.mpr ⟨firstPresent, thirdPresent, Std.TransCmp.eq_trans leftEqual rightEqual⟩

/-- A value is among others when it is the same as one of them. -/
theorem among_eq_true {database : Database} {value : Scalar} {values : List Scalar} :
    database.among value values = some true ↔ ∃ other ∈ values, database.Same value other := by
  simp [among, Truth.any_eq_true, Same]

/-- A value is equal to a common one exactly when every list has one equal to it.
A null in the lists makes no difference, because nothing is equal to it. -/
theorem same_common {database : Database} {value : Scalar} {first : List Scalar}
    {others : List (List Scalar)} :
    (∃ other ∈ database.common (first :: others), database.Same value other) ↔
      ∀ values ∈ first :: others, ∃ other ∈ values, database.Same value other := by
  simp only [common, List.mem_filter, List.all_eq_true, List.any_eq_true, decide_eq_true_eq,
    List.forall_mem_cons]
  constructor
  · rintro ⟨chosen, ⟨inFirst, inOthers⟩, same⟩
    refine ⟨⟨chosen, inFirst, same⟩, fun values listed => ?_⟩
    obtain ⟨other, inside, rfl | alike⟩ := inOthers values listed
    · exact ⟨chosen, inside, same⟩
    · exact ⟨other, inside, same.trans alike⟩
  · rintro ⟨⟨chosen, inFirst, same⟩, inOthers⟩
    refine ⟨chosen, ⟨inFirst, fun values listed => ?_⟩, same⟩
    obtain ⟨other, inside, alike⟩ := inOthers values listed
    exact ⟨other, inside, Or.inr (same.symm.trans alike)⟩

end Database

mutual

/-- The truth of a condition of a row. -/
def Condition.truth (database : Database) : Condition → Tuple → Truth
  | .compare column relation value, tuple => database.compared (tuple column) relation value
  | .member column .isIn values, tuple => database.among (tuple column) values
  | .member column .notIn values, tuple => (database.among (tuple column) values).negation
  | .nullTest column .isNull, tuple => some (tuple column = .null)
  | .nullTest column .isNotNull, tuple => some (tuple column ≠ .null)
  | .anyOf alternatives, tuple => Truth.any (truths database alternatives tuple)
  | .inSelects column selects, tuple =>
    database.among (tuple column) (database.common (selected database selects))

/-- The truth of every condition of a row. -/
def truths (database : Database) : List Condition → Tuple → List Truth
  | [], _ => []
  | condition :: rest, tuple => condition.truth database tuple :: truths database rest tuple

/-- The values that a sub-select gives. -/
def SubSelect.values (database : Database) : SubSelect → List Scalar
  | .select column source conditions =>
    ((database.rows source).filter fun tuple =>
      Truth.all (truths database conditions tuple) = some true).map (· column)

/-- The values that each sub-select gives. -/
def selected (database : Database) : List SubSelect → List (List Scalar)
  | [] => []
  | select :: rest => select.values database :: selected database rest

end

/-- A condition is true of a row. -/
def Condition.Holds (condition : Condition) (database : Database) (tuple : Tuple) : Prop :=
  condition.truth database tuple = some true

/-- Whether a condition is true of a row is decided by its truth. -/
instance (condition : Condition) (database : Database) (tuple : Tuple) :
    Decidable (condition.Holds database tuple) :=
  inferInstanceAs (Decidable (_ = _))

/-- The truths of conditions are taken one by one. -/
theorem truths_eq_map (database : Database) (conditions : List Condition) (tuple : Tuple) :
    truths database conditions tuple = conditions.map (·.truth database tuple) := by
  induction conditions with
  | nil => rfl
  | cons first rest ih => simp [truths, ih]

/-- Sub-selects give their values one by one. -/
theorem selected_eq_map (database : Database) (selects : List SubSelect) :
    selected database selects = selects.map (SubSelect.values database) := by
  induction selects with
  | nil => rfl
  | cons first rest ih => simp [selected, ih]

/-- All conditions are true of a row when each of them is. -/
theorem all_truths {database : Database} {conditions : List Condition} {tuple : Tuple} :
    Truth.all (truths database conditions tuple) = some true ↔
      ∀ condition ∈ conditions, condition.Holds database tuple := by
  rw [truths_eq_map, Truth.all_eq_true]
  exact List.forall_mem_map

/-- A sub-select gives the column of the rows of which all its conditions are true. -/
theorem SubSelect.mem_values {database : Database} {column : ColumnName} {source : TableName}
    {conditions : List Condition} {value : Scalar} :
    value ∈ (SubSelect.select column source conditions).values database ↔
      ∃ tuple ∈ database.rows source,
        (∀ condition ∈ conditions, condition.Holds database tuple) ∧ tuple column = value := by
  simp only [values, List.mem_map, List.mem_filter, decide_eq_true_eq, all_truths]
  constructor
  · rintro ⟨tuple, ⟨stored, holds⟩, given⟩
    exact ⟨tuple, stored, holds, given⟩
  · rintro ⟨tuple, stored, holds, given⟩
    exact ⟨tuple, ⟨stored, holds⟩, given⟩

/-- A column is an id that all of the sub-selects give when every one of them gives
a value equal to it. -/
theorem Condition.holds_inSelects {database : Database} {column : ColumnName}
    {first : SubSelect} {others : List SubSelect} {tuple : Tuple} :
    (Condition.inSelects column (first :: others)).Holds database tuple ↔
      ∀ select ∈ first :: others,
        ∃ value ∈ select.values database, database.Same (tuple column) value := by
  unfold Holds
  rw [truth, Database.among_eq_true, selected_eq_map, List.map_cons, Database.same_common]
  simp

end Sql

end DomainSql
