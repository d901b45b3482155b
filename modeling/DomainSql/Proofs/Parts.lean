import DomainSql.Sql.Text

/-!
# The parts of statements

Conditions stand inside conditions: in a group of alternatives, and behind the
`WHERE` of a sub-select. What is said of every condition of a statement is said of
its parts, which are its conditions and all conditions inside them, at any depth.
The names of a statement are its own and those of its parts.

Conditions and sub-selects are defined together, so facts about conditions are
proved by an induction of their own. It asks for nothing but the conditions
directly inside a condition.
-/
namespace DomainSql.Sql

/-- The conditions behind the `WHERE` of a sub-select. -/
def SubSelect.conditions : SubSelect → List Condition
  | .select _ _ conditions => conditions

/-- The names that a sub-select itself holds. -/
def SubSelect.names : SubSelect → List String
  | .select column source _ => [column, source]

section
variable {motive : Condition → Prop}
  (compare : ∀ column relation value, motive (.compare column relation value))
  (member : ∀ column test values, motive (.member column test values))
  (nullTest : ∀ column test, motive (.nullTest column test))
  (anyOf : ∀ alternatives, (∀ condition ∈ alternatives, motive condition) →
    motive (.anyOf alternatives))
  (inSelects : ∀ column selects,
    (∀ select ∈ selects, ∀ condition ∈ select.conditions, motive condition) →
      motive (.inSelects column selects))
include compare member nullTest anyOf inSelects

/-- What follows from the conditions directly inside a condition holds of every
condition. The four kinds of term are gone through together: a list has the
property when all of its conditions have it. -/
@[induction_eliminator]
theorem Condition.induction (condition : Condition) : motive condition := by
  refine @Condition.rec motive
    (fun select => ∀ condition ∈ select.conditions, motive condition)
    (fun conditions => ∀ condition ∈ conditions, motive condition)
    (fun selects => ∀ select ∈ selects, ∀ condition ∈ select.conditions, motive condition)
    compare member nullTest anyOf inSelects ?_ ?_ ?_ ?_ ?_ condition
  · intro column source conditions each
    exact each
  · exact fun _ absent => absurd absent List.not_mem_nil
  · intro first rest ofFirst ofRest
    exact List.forall_mem_cons.mpr ⟨ofFirst, ofRest⟩
  · exact fun _ absent => absurd absent List.not_mem_nil
  · intro first rest ofFirst ofRest
    exact List.forall_mem_cons.mpr ⟨ofFirst, ofRest⟩

end

mutual

/-- A condition and all conditions inside it. -/
def Condition.parts : Condition → List Condition
  | .anyOf alternatives => .anyOf alternatives :: partsOf alternatives
  | .inSelects column selects => .inSelects column selects :: partsOfSelects selects
  | condition => [condition]

/-- Conditions and all conditions inside them. -/
def partsOf : List Condition → List Condition
  | [] => []
  | condition :: rest => condition.parts ++ partsOf rest

/-- All conditions inside a sub-select. -/
def SubSelect.parts : SubSelect → List Condition
  | .select _ _ conditions => partsOf conditions

/-- All conditions inside sub-selects. -/
def partsOfSelects : List SubSelect → List Condition
  | [] => []
  | select :: rest => select.parts ++ partsOfSelects rest

end

/-- The names that a condition itself holds. Those of its sub-selects are its own,
because a sub-select is no condition. -/
def Condition.names : Condition → List String
  | .compare column _ _ | .member column _ _ | .nullTest column _ => [column]
  | .anyOf _ => []
  | .inSelects column selects => column :: selects.flatMap SubSelect.names

/-- The names of conditions, at any depth. -/
def namesOf (conditions : List Condition) : List String :=
  (partsOf conditions).flatMap Condition.names

/-- The conditions of a statement. -/
def Statement.conditions : Statement → List Condition
  | .select statement => statement.conditions
  | .insert _ => []
  | .update statement => statement.conditions
  | .delete statement => statement.conditions

/-- All conditions inside a statement. -/
def Statement.parts (statement : Statement) : List Condition := partsOf statement.conditions

/-- The columns that a projection names. -/
def Projection.names : Projection → List String
  | .all | .count => []
  | .columns names => names

/-- The names that a statement holds outside of its conditions. -/
def Statement.ownNames : Statement → List String
  | .select statement =>
    statement.source :: statement.projection.names ++ statement.order.map OrderItem.column
  | .insert statement => statement.table :: statement.columns
  | .update statement => statement.table :: statement.assignments.map Prod.fst
  | .delete statement => [statement.table]

/-- Every name of a table or column in a statement. -/
def Statement.names (statement : Statement) : List String :=
  statement.ownNames ++ namesOf statement.conditions

/-- The parts of conditions are the parts of each of them. -/
theorem mem_partsOf {part : Condition} {conditions : List Condition} :
    part ∈ partsOf conditions ↔ ∃ condition ∈ conditions, part ∈ condition.parts := by
  induction conditions with
  | nil => simp [partsOf]
  | cons first rest ih => simp [partsOf, ih]

/-- The parts inside sub-selects are the parts of their conditions. -/
theorem mem_partsOfSelects {part : Condition} {selects : List SubSelect} :
    part ∈ partsOfSelects selects ↔ ∃ select ∈ selects, part ∈ partsOf select.conditions := by
  induction selects with
  | nil => simp [partsOfSelects]
  | cons first rest ih =>
    obtain ⟨column, source, conditions⟩ := first
    simp [partsOfSelects, SubSelect.parts, SubSelect.conditions, ih]

/-- A condition is one of its parts. -/
theorem Condition.mem_parts_self (condition : Condition) : condition ∈ condition.parts := by
  cases condition <;> simp [parts]

/-- Something holds of a condition and of all conditions inside it. -/
def Condition.Throughout (holds : Condition → Prop) (condition : Condition) : Prop :=
  ∀ part ∈ condition.parts, holds part

/-- What holds throughout a group holds of it and throughout its alternatives. -/
theorem Condition.throughout_anyOf {holds : Condition → Prop} {alternatives : List Condition} :
    (Condition.anyOf alternatives).Throughout holds ↔
      holds (.anyOf alternatives) ∧
        ∀ condition ∈ alternatives, condition.Throughout holds := by
  simp only [Throughout, parts, List.forall_mem_cons, mem_partsOf]
  constructor
  · rintro ⟨own, inside⟩
    exact ⟨own, fun condition listed part inPart => inside part ⟨condition, listed, inPart⟩⟩
  · rintro ⟨own, inside⟩
    refine ⟨own, ?_⟩
    rintro part ⟨condition, listed, inPart⟩
    exact inside condition listed part inPart

/-- What holds throughout a condition with sub-selects holds of it and throughout
their conditions. -/
theorem Condition.throughout_inSelects {holds : Condition → Prop} {column : ColumnName}
    {selects : List SubSelect} :
    (Condition.inSelects column selects).Throughout holds ↔
      holds (.inSelects column selects) ∧
        ∀ select ∈ selects, ∀ condition ∈ select.conditions, condition.Throughout holds := by
  simp only [Throughout, parts, List.forall_mem_cons, mem_partsOfSelects, mem_partsOf]
  constructor
  · rintro ⟨own, inside⟩
    exact ⟨own, fun select listed condition inSelect part inPart =>
      inside part ⟨select, listed, condition, inSelect, inPart⟩⟩
  · rintro ⟨own, inside⟩
    refine ⟨own, ?_⟩
    rintro part ⟨select, listed, condition, inSelect, inPart⟩
    exact inside select listed condition inSelect part inPart

end DomainSql.Sql
