import DomainSql.Proofs.AcceptedFilters
import DomainSql.Proofs.Meaning

/-!
# What an entry of a filter mapping means

A key is read as a field and the suffix of an operator, the longest one that leaves a
field in front of it. A key without a suffix asks for equality. What an entry asks of a
row is told from its key and its value alone: by its operator, a value is compared with
the cell of the field's column, and under a key with the suffix of alternatives one of
several such entries has to hold. A comparison that is unknown does not hold.
-/
namespace DomainSql

open Sql

namespace Operator

/-- A key is a field, which is not empty, in front of the suffix of an operator. -/
def Fits (operator : Operator) (key field : String) : Prop :=
  field ≠ "" ∧ key = field ++ operator.suffix

/-- What a key denotes: the field in front of the longest suffix that fits, or equality of
the key itself if none fits. -/
inductive Denotes (key : String) : String → Operator → Prop
  | suffixed (field : String) (operator : Operator) : operator.Fits key field →
    (∀ other rest, Fits other key rest → other.suffix.length ≤ operator.suffix.length) →
    Denotes key field operator
  | bare : (∀ operator field, ¬ Fits operator key field) → Denotes key key .eq

/-- A key that fits an operator ends with its suffix. -/
theorem Fits.suffix_isSuffix {operator : Operator} {key field : String}
    (fits : operator.Fits key field) : operator.suffix.toList <:+ key.toList := by
  rw [fits.2, String.toList_append]
  exact List.suffix_append _ _

/-- The field of a key for an operator is the one with which the key fits it. -/
theorem field?_eq_some_iff {operator : Operator} {key field : String} :
    operator.field? key = some field ↔ operator.Fits key field := by
  simp only [field?, beforeSuffix?, Option.filter_eq_some_iff, decide_eq_true_eq,
    List.isSuffixOf_iff_suffix]
  constructor
  · rintro ⟨found, notEmpty⟩
    refine ⟨notEmpty, ?_⟩
    split at found
    · rename_i ends
      obtain ⟨front, split⟩ := ends
      simp only [← split, List.length_append, Nat.add_sub_cancel, List.take_left,
        Option.some.injEq] at found
      rw [← String.toList_inj, ← found, String.toList_append, String.toList_ofList, split]
    · cases found
  · rintro ⟨notEmpty, rfl⟩
    refine ⟨?_, notEmpty⟩
    rw [if_pos (by simp)]
    simp

/-- No suffix ends with one that is tried before it. -/
theorem suffixes_ordered :
    all.Pairwise fun first second => ¬ first.suffix.toList <:+ second.suffix.toList := by
  decide

/-- The list of operators leaves none out. -/
theorem mem_all (operator : Operator) : operator ∈ all := by
  cases operator <;> decide

/-- Operators of the list have suffixes of their own. -/
theorem suffix_injective_of_mem : ∀ first ∈ all, ∀ second ∈ all,
    first.suffix = second.suffix → first = second := by
  decide

/-- A key is resolved to what it denotes. The first suffix that fits is the longest one,
because no suffix ends with an earlier one. -/
theorem denotes_resolve (key : String) : Denotes key (resolve key).1 (resolve key).2 := by
  unfold resolve
  cases found : all.findSome? fun operator : Operator =>
      (operator.field? key).map (·, operator) with
  | none =>
    have noField : ∀ operator : Operator, operator.field? key = none := by
      intro operator
      simpa using List.findSome?_eq_none_iff.mp found operator operator.mem_all
    refine .bare fun operator field fits => ?_
    rw [← field?_eq_some_iff, noField operator] at fits
    cases fits
  | some result =>
    obtain ⟨before, operator, behind, split, isFirst, earlier⟩ :=
      List.findSome?_eq_some_iff.mp found
    obtain ⟨field, present, rfl⟩ := Option.map_eq_some_iff.mp isFirst
    have fits := field?_eq_some_iff.mp present
    refine .suffixed field operator fits fun other rest fitsToo => ?_
    have ordered := suffixes_ordered
    rw [split, List.pairwise_append, List.pairwise_cons] at ordered
    have inAll := other.mem_all
    rw [split] at inAll
    rcases List.mem_append.mp inAll with inFront | notInFront
    · have none := earlier other inFront
      rw [field?_eq_some_iff.mpr fitsToo] at none
      cases none
    · rcases List.mem_cons.mp notInFront with rfl | inRest
      · exact Nat.le_refl _
      · have notLonger := ordered.2.1.1 other inRest
        rcases List.suffix_or_suffix_of_suffix fits.suffix_isSuffix fitsToo.suffix_isSuffix with
          shorter | within
        · exact absurd shorter notLonger
        · exact within.length_le

example : resolve "stateNotIn" = ("state", .notIn) ∧ resolve "NotIn" = ("Not", .isIn) := by
  decide +kernel

/-- A key denotes one thing. -/
theorem Denotes.unique {key field other : String} {operator operator' : Operator}
    (denotes : Denotes key field operator) (denotesToo : Denotes key other operator') :
    other = field ∧ operator' = operator := by
  cases denotes with
  | suffixed _ _ fits longest =>
    cases denotesToo with
    | suffixed _ _ fitsToo longestToo =>
      have sameLength : operator.suffix.toList.length = operator'.suffix.toList.length :=
        Nat.le_antisymm (longestToo _ _ fits) (longest _ _ fitsToo)
      have sameSuffix : operator.suffix = operator'.suffix :=
        String.toList_inj.mp (List.suffix_of_suffix_length_le fits.suffix_isSuffix
          fitsToo.suffix_isSuffix sameLength.le |>.eq_of_length sameLength)
      obtain rfl := suffix_injective_of_mem operator operator.mem_all operator' operator'.mem_all
        sameSuffix
      have sameKey : field.toList ++ operator.suffix.toList =
          other.toList ++ operator.suffix.toList := by
        rw [← String.toList_append, ← String.toList_append, ← fits.2, ← fitsToo.2]
      exact ⟨(String.toList_inj.mp (List.append_cancel_right sameKey)).symm, rfl⟩
    | bare none => exact absurd fits (none _ _)
  | bare none =>
    cases denotesToo with
    | suffixed _ _ fitsToo _ => exact absurd fitsToo (none _ _)
    | bare _ => exact ⟨rfl, rfl⟩

end Operator

namespace Sql

/-- A value in a cell stands in a relation to a scalar. -/
def Database.Compares (database : Database) (cell : Scalar) (relation : Comparison)
    (value : Value) : Prop :=
  ∃ scalar, value = .scalar scalar ∧ database.compared cell relation scalar = some true

/-- A value in a cell is matched, or is not matched, by the text of a scalar with wildcards
around it. -/
def Database.Searches (database : Database) (cell : Scalar) (relation : Comparison)
    (wildcards : Wildcards) (value : Value) : Prop :=
  ∃ scalar text, value = .scalar scalar ∧ searchText? scalar = some text ∧
    database.compared cell relation (.text (wildcards.around text)) = some true

/-- Not to be true of any means to be false of all. -/
theorem Truth.negation_any (truths : List Truth) :
    (Truth.any truths).negation = Truth.all (truths.map Truth.negation) := by
  have twice : Function.Involutive Truth.negation := by
    rintro (_ | truth)
    · rfl
    · exact congrArg some truth.not_not
  have opposites : Truth.negation (some false) = some true ∧ Truth.negation none = none := by decide
  unfold Truth.any Truth.all
  simp only [List.mem_map_of_involutive twice, opposites]
  split
  · rfl
  · split <;> rfl

/-- Two values are different when they are not equal, unless that is unknown. -/
theorem Database.compared_notEqual {database : Database} {left right : Scalar} :
    database.compared left .notEqual right = (database.compared left .equal right).negation := by
  unfold Database.compared
  split
  · rfl
  · simp [Truth.negation, Database.relates]

/-- To be none of some values is to be different from each of them. -/
theorem Database.negation_among {database : Database} {cell : Scalar} {values : List Scalar} :
    (database.among cell values).negation = some true ↔
      ∀ other ∈ values, database.compared cell .notEqual other = some true := by
  have asAll : (database.among cell values).negation =
      Truth.all (values.map (database.compared cell .notEqual)) := by
    simp only [Database.among, Truth.negation_any, List.map_map]
    congr 1
    exact List.map_congr_left fun other _ => Database.compared_notEqual.symm
  rw [asAll, Truth.all_eq_true, List.forall_mem_map]

end Sql

/-- What an operator asks of the value in a cell. To be none of some values means to be
different from each of them, so that a null among them leaves it open. -/
def Operator.Relates (database : Database) (cell : Scalar) : Operator → Value → Prop
  | .eq, value => database.Compares cell .equal value
  | .ne, value | .not, value => database.Compares cell .notEqual value
  | .gt, value => database.Compares cell .greater value
  | .ge, value => database.Compares cell .greaterOrEqual value
  | .lt, value => database.Compares cell .less value
  | .le, value => database.Compares cell .lessOrEqual value
  | .contain, value => database.Searches cell .like .both value
  | .start, value => database.Searches cell .like .trailing value
  | .end_, value => database.Searches cell .like .leading value
  | .notLike, value => database.Searches cell .notLike .both value
  | .isIn, value => ∃ items, value = .array items ∧
    ∃ item ∈ items, database.Compares cell .equal item
  | .notIn, value => ∃ items, value = .array items ∧
    ∀ item ∈ items, database.Compares cell .notEqual item
  | .null, _ => cell = .null
  | .notNull, _ => cell ≠ .null

/-- An entry that is a single condition holds of a row when the cell of its field's column
stands in the relation of its operator to its value. -/
def ConditionHolds (naming : Naming) (database : Database) (tuple : Tuple)
    (entry : String × Value) : Prop :=
  ∃ field operator, Operator.Denotes entry.1 field operator ∧
    operator.Relates database (tuple (naming.columnName field)) entry.2

/-- An entry holds of a row: under a key with the suffix of alternatives one of the entries
of its mapping, and under any other key the condition that the entry is. -/
def EntryHolds (naming : Naming) (database : Database) (tuple : Tuple)
    (entry : String × Value) : Prop :=
  if alternativesSuffix.toList <:+ entry.1.toList then
    ∃ alternatives, entry.2 = .mapping alternatives ∧
      ∃ alternative ∈ alternatives, ConditionHolds naming database tuple alternative
  else ConditionHolds naming database tuple entry

/-- A value is used as a scalar when it is one, and stays the same. -/
theorem scalarOf_eq_ok {key : String} {value : Value} {scalar : Scalar} :
    scalarOf key value = .ok scalar ↔ value = .scalar scalar := by
  cases value <;> simp [scalarOf]

/-- Scalars are taken from an array that holds them and nothing else. -/
theorem scalarsOf_eq_ok {key : String} {value : Value} {scalars : List Scalar}
    (taken : scalarsOf key value = .ok scalars) : value = .array (scalars.map .scalar) := by
  unfold scalarsOf at taken
  split at taken
  · cases taken
  · rename_i items _
    have each := mapM_eq_ok.mp taken
    simp only [scalarOf_eq_ok] at each
    rw [← List.forall₂_map_right_iff, List.forall₂_eq_eq_eq] at each
    rw [each]
  · cases taken

/-- A pattern is made of the text that a scalar is searched by. -/
theorem patternOf_eq_ok {key : String} {wildcards : Wildcards} {value : Value}
    {pattern : Scalar} (made : patternOf key wildcards value = .ok pattern) :
    ∃ scalar text, value = .scalar scalar ∧ searchText? scalar = some text ∧
      pattern = .text (wildcards.around text) := by
  cases value with
  | array items => cases made
  | mapping entries => cases made
  | scalar scalar =>
    unfold patternOf at made
    simp only at made
    split at made
    · rename_i text found
      exact ⟨scalar, text, rfl, found, by simpa using made.symm⟩
    · cases made

section
variable {database : Database} {tuple : Tuple} {column : ColumnName} {key : String}
variable {value : Value}

/-- A comparison with the scalar of a filter asks what the operator asks. -/
theorem holds_compare {relation : Comparison} {scalar : Scalar}
    (taken : scalarOf key value = .ok scalar) :
    (Condition.compare column relation scalar).Holds database tuple ↔
      database.Compares (tuple column) relation value := by
  obtain rfl := scalarOf_eq_ok.mp taken
  simp [Condition.Holds, Condition.truth, Database.Compares]

/-- A comparison with the pattern of a filter asks what the operator asks. -/
theorem holds_search {relation : Comparison} {wildcards : Wildcards} {pattern : Scalar}
    (made : patternOf key wildcards value = .ok pattern) :
    (Condition.compare column relation pattern).Holds database tuple ↔
      database.Searches (tuple column) relation wildcards value := by
  obtain ⟨scalar, text, rfl, searched, rfl⟩ := patternOf_eq_ok made
  simp [Condition.Holds, Condition.truth, Database.Searches, searched]

/-- A compiled condition asks of the cell of its column what the operator asks. -/
theorem Operator.holds_condition {operator : Operator} {condition : Condition}
    (compiled : operator.condition column key value = .ok condition) :
    condition.Holds database tuple ↔ operator.Relates database (tuple column) value := by
  cases operator with
  | eq | ne | not | gt | ge | lt | le =>
    obtain ⟨scalar, taken, rfl⟩ := bind_pure_eq_ok.mp compiled
    exact holds_compare taken
  | contain | start | end_ | notLike =>
    obtain ⟨pattern, made, rfl⟩ := bind_pure_eq_ok.mp compiled
    exact holds_search made
  | isIn =>
    obtain ⟨scalars, taken, rfl⟩ := bind_pure_eq_ok.mp compiled
    obtain rfl := scalarsOf_eq_ok taken
    rw [Condition.Holds, Condition.truth, Database.among_eq_true]
    simp [Relates, Database.Compares, Database.Same]
  | notIn =>
    obtain ⟨scalars, taken, rfl⟩ := bind_pure_eq_ok.mp compiled
    obtain rfl := scalarsOf_eq_ok taken
    rw [Condition.Holds, Condition.truth, Database.negation_among]
    simp [Relates, Database.Compares]
  | null =>
    cases compiled
    simp [Relates, Condition.Holds, Condition.truth]
  | notNull =>
    cases compiled
    simp [Relates, Condition.Holds, Condition.truth]

end

section
variable {naming : Naming} {database : Database} {tuple : Tuple} {condition : Condition}

/-- A key and a value that compile are a condition that holds as its key says. -/
theorem holds_compileCondition {entry : String × Value}
    (compiled : compileCondition naming entry.1 entry.2 = .ok condition) :
    condition.Holds database tuple ↔ ConditionHolds naming database tuple entry := by
  have found := Operator.denotes_resolve entry.1
  unfold compileCondition at compiled
  cases resolved : Operator.resolve entry.1 with
  | mk field operator
  rw [resolved] at found compiled
  obtain ⟨_, _, built⟩ := bind_eq_ok.mp compiled
  rw [Operator.holds_condition built]
  constructor
  · intro relates
    exact ⟨field, operator, found, relates⟩
  · rintro ⟨other, operator', denotes, relates⟩
    obtain ⟨rfl, rfl⟩ := found.unique denotes
    exact relates

/-- An entry that compiles is a condition that holds when the entry does. -/
theorem holds_compileFilter {entry : String × Value}
    (compiled : compileFilter naming entry.1 entry.2 = .ok condition) :
    condition.Holds database tuple ↔ EntryHolds naming database tuple entry := by
  obtain ⟨key, value⟩ := entry
  simp only [compileFilter, isSome_beforeSuffix?] at compiled
  unfold EntryHolds
  split at compiled
  · rename_i suffixed
    rw [if_pos suffixed]
    unfold compileAlternatives at compiled
    split at compiled
    · cases compiled
    · rename_i entries _
      obtain ⟨alternatives, each, rfl⟩ := bind_pure_eq_ok.mp compiled
      have same := exists_result_iff ((mapM_eq_ok.mp each).imp fun _ _ compiledHere =>
        @holds_compileCondition naming database tuple _ _ compiledHere)
      rw [Condition.Holds, Condition.truth, Truth.any_eq_true, truths_eq_map, List.mem_map]
      simpa [Condition.Holds] using same
    · cases compiled
  · rename_i plain
    rw [if_neg plain]
    exact holds_compileCondition compiled

/-- All conditions of a filter mapping hold when all entries do. -/
theorem holds_compileFilters {filters : Mapping} {conditions : List Condition}
    (compiled : compileFilters naming filters = .ok conditions) :
    (∀ condition ∈ conditions, condition.Holds database tuple) ↔
      ∀ entry ∈ filters, EntryHolds naming database tuple entry :=
  forall_result_iff ((mapM_eq_ok.mp compiled).imp fun _ _ => holds_compileFilter)

end

end DomainSql
