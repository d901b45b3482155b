import DomainSql.CompileError
import DomainSql.Sql.Statement

/-!
# Operators of filter keys

A filter key is a field followed by the suffix of an operator, and a key without
a suffix asks for equality. A suffix only counts behind a field: a key that is
nothing but a suffix is a field of that name. Where one suffix ends with another,
the longer one stands first in the table and is the one that counts.
-/
namespace DomainSql

open Sql

/-- A filter operator. -/
inductive Operator where
  | eq
  | ne
  | not
  | gt
  | ge
  | lt
  | le
  | notIn
  | isIn
  | notLike
  | contain
  | start
  | end_
  | notNull
  | null
deriving DecidableEq, Repr

/-- How many values an operator takes from its filter. -/
inductive Arity where
  | zero
  | one
  | many
deriving DecidableEq, Repr

/-- The name of a number of values. -/
def Arity.name : Arity → String
  | .zero => "Zero"
  | .one => "One"
  | .many => "Many"

/-- Where a pattern has its wildcards. -/
inductive Wildcards where
  | both
  | trailing
  | leading
deriving DecidableEq, Repr

/-- The rest of a text in front of a suffix, if it ends with the suffix. -/
def beforeSuffix? (suffix text : String) : Option String :=
  if suffix.toList.isSuffixOf text.toList then
    some (String.ofList (text.toList.take (text.toList.length - suffix.toList.length)))
  else none

namespace Operator

/-- The operators in the order in which their suffixes are tried. -/
def all : List Operator :=
  [eq, ne, not, gt, ge, lt, le, notIn, isIn, notLike, contain, start, end_, notNull, null]

/-- The suffix of an operator. -/
def suffix : Operator → String
  | eq => "Eq"
  | ne => "Ne"
  | not => "Not"
  | gt => "Gt"
  | ge => "Ge"
  | lt => "Lt"
  | le => "Le"
  | notIn => "NotIn"
  | isIn => "In"
  | notLike => "NotLike"
  | contain => "Contain"
  | start => "Start"
  | end_ => "End"
  | notNull => "NotNull"
  | null => "Null"

/-- The number of values of an operator. -/
def arity : Operator → Arity
  | isIn | notIn => .many
  | null | notNull => .zero
  | _ => .one

/-- The field in front of the operator's suffix, if the key has both. -/
def field? (operator : Operator) (key : String) : Option String :=
  (beforeSuffix? operator.suffix key).filter (· ≠ "")

/-- The field and the operator of a key. -/
def resolve (key : String) : String × Operator :=
  (all.findSome? fun operator => (operator.field? key).map (·, operator)).getD (key, eq)

end Operator

/-- The value of a filter or of a field that has to be a scalar. -/
def scalarOf (key : String) : Value → Except CompileError Scalar
  | .scalar scalar => .ok scalar
  | _ => .error (.unexpectedValue key .scalar)

/-- The values of a filter that has to be an array of scalars, at least one. -/
def scalarsOf (key : String) : Value → Except CompileError (List Scalar)
  | .array [] => .error (.emptyList key)
  | .array items => items.mapM (scalarOf key)
  | _ => .error (.unexpectedValue key .array)

/-- The text that a scalar is searched by; null has none. -/
def searchText? : Scalar → Option String
  | .null => none
  | .bool true => some "true"
  | .bool false => some "false"
  | .number number => some (String.ofList number.text)
  | .text text => some text

/-- A text between wildcards. The characters of the text are taken as they are. -/
def Wildcards.around (wildcards : Wildcards) (text : String) : String :=
  match wildcards with
  | .both => "%" ++ text ++ "%"
  | .trailing => text ++ "%"
  | .leading => "%" ++ text

/-- The pattern of a filter that has to be a scalar with a text. -/
def patternOf (key : String) (wildcards : Wildcards) (value : Value) :
    Except CompileError Scalar :=
  let text? : Option String :=
    match value with
    | .scalar scalar => searchText? scalar
    | _ => none
  match text? with
  | some text => .ok (.text (wildcards.around text))
  | none => .error (.unexpectedValue key .text)

/-- The condition of an operator on a column. Null tests do not read the value of
their filter. The key is only named in errors. -/
def Operator.condition (operator : Operator) (column : ColumnName) (key : String)
    (value : Value) : Except CompileError Condition :=
  match operator with
  | .eq => do return .compare column .equal (← scalarOf key value)
  | .ne | .not => do return .compare column .notEqual (← scalarOf key value)
  | .gt => do return .compare column .greater (← scalarOf key value)
  | .ge => do return .compare column .greaterOrEqual (← scalarOf key value)
  | .lt => do return .compare column .less (← scalarOf key value)
  | .le => do return .compare column .lessOrEqual (← scalarOf key value)
  | .contain => do return .compare column .like (← patternOf key .both value)
  | .start => do return .compare column .like (← patternOf key .trailing value)
  | .end_ => do return .compare column .like (← patternOf key .leading value)
  | .notLike => do return .compare column .notLike (← patternOf key .both value)
  | .isIn => do return .member column .isIn (← scalarsOf key value)
  | .notIn => do return .member column .notIn (← scalarsOf key value)
  | .null => .ok (.nullTest column .isNull)
  | .notNull => .ok (.nullTest column .isNotNull)

end DomainSql
