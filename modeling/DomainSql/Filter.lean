import DomainSql.Operator

/-!
# Filters

A filter mapping is compiled entry by entry, in the order of its keys. An entry is
a single condition, or, where the key ends with the suffix of alternatives, a
group of which one condition has to hold. Groups hold single conditions only.
-/
namespace DomainSql

open Sql

/-- Keys with this suffix hold alternatives. -/
def alternativesSuffix : String := "Or"

/-- The condition of a key and its value. -/
def compileCondition (naming : Naming) (key : String) (value : Value) :
    Except CompileError Condition := do
  let (field, operator) := Operator.resolve key
  checkIdentifier key field
  operator.condition (naming.columnName field) key value

/-- A group of alternatives, at least one. -/
def compileAlternatives (naming : Naming) (key : String) :
    Value → Except CompileError Condition
  | .mapping [] => .error (.emptyAlternatives key)
  | .mapping entries => do
    return .anyOf (← entries.mapM fun entry => compileCondition naming entry.1 entry.2)
  | _ => .error (.alternativesNotObject key)

/-- An entry of a filter mapping. -/
def compileFilter (naming : Naming) (key : String) (value : Value) :
    Except CompileError Condition :=
  if (beforeSuffix? alternativesSuffix key).isSome then compileAlternatives naming key value
  else compileCondition naming key value

/-- A filter mapping. -/
def compileFilters (naming : Naming) (filters : Mapping) :
    Except CompileError (List Condition) :=
  filters.mapM fun entry => compileFilter naming entry.1 entry.2

end DomainSql
