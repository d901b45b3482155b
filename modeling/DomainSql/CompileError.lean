import DomainSql.Identifier

/-!
# Why a request is not compiled

Every reason is about the shape of the request. A reason has a code and a name,
which stay the same for the kind, and a message with its details.
-/
namespace DomainSql

/-- The kinds of value that a place of a request may ask for. -/
inductive Expectation where
  | scalar
  | array
  | text
  | object
deriving DecidableEq, Repr

/-- The words for an expected kind of value. -/
def Expectation.words : Expectation → String
  | .scalar => "a scalar"
  | .array => "an array"
  | .text => "a string"
  | .object => "an object"

/-- The reason why a request is not compiled. -/
inductive CompileError where
  | missingOperation
  | missingDomain
  | unsupportedOperation (name : String)
  | alternativesNotObject (key : String)
  | emptyAlternatives (key : String)
  | emptyList (key : String)
  | unexpectedValue (key : String) (expected : Expectation)
  | dataRequired
  | dataEmpty
  | noAssignments
  | emptyRow (row : Nat)
  | inconsistentRow (row : Nat)
  | routeTooShort
  | ambiguousRouteFilter (domain first second : String)
  | invalidSort (sort : String)
  | invalidPageSize
  | invalidIdentifier (name : String)
deriving DecidableEq, Repr

namespace CompileError

/-- The code of a reason. -/
def code : CompileError → Nat
  | dataRequired => 1000
  | dataEmpty => 1001
  | noAssignments => 1002
  | alternativesNotObject _ => 1003
  | emptyAlternatives _ => 1004
  | missingOperation => 1005
  | missingDomain => 1006
  | unsupportedOperation _ => 1007
  | emptyList _ => 1008
  | unexpectedValue .. => 1009
  | emptyRow _ => 1010
  | inconsistentRow _ => 1011
  | routeTooShort => 1012
  | ambiguousRouteFilter .. => 1013
  | invalidSort _ => 1014
  | invalidPageSize => 1015
  | invalidIdentifier _ => 1016

/-- The name of a reason. -/
def name : CompileError → String
  | dataRequired => "DATA_SHOULD_NOT_BE_NULL"
  | dataEmpty => "DATA_SHOULD_NOT_BE_EMPTY"
  | noAssignments => "DATA_SHOULD_CONTAIN_AT_LEAST_ONE_FIELD"
  | alternativesNotObject _ => "TYPE_OF_OR_FILTER_SHOULD_BE_OBJECT"
  | emptyAlternatives _ => "OR_FILTER_SHOULD_CONTAIN_AT_LEAST_ONE_CONDITION"
  | missingOperation => "OPERATION_SHOULD_NOT_BE_EMPTY"
  | missingDomain => "DOMAIN_SHOULD_NOT_BE_EMPTY"
  | unsupportedOperation _ => "UNSUPPORTED_OPERATION"
  | emptyList _ => "IN_FILTER_SHOULD_CONTAIN_AT_LEAST_ONE_VALUE"
  | unexpectedValue .. => "UNEXPECTED_VALUE"
  | emptyRow _ => "ROW_SHOULD_CONTAIN_AT_LEAST_ONE_FIELD"
  | inconsistentRow _ => "ROWS_SHOULD_CONTAIN_THE_SAME_FIELDS"
  | routeTooShort => "DOMAIN_ROUTE_SHOULD_CONTAIN_AT_LEAST_TWO_DOMAINS"
  | ambiguousRouteFilter .. => "AMBIGUOUS_DOMAIN_ROUTE_FILTER"
  | invalidSort _ => "INVALID_SORT"
  | invalidPageSize => "INVALID_PAGE_SIZE"
  | invalidIdentifier _ => "INVALID_IDENTIFIER"

/-- The words for a reason. -/
def message : CompileError → String
  | missingOperation => "Operation is required."
  | missingDomain => "Domain is required."
  | unsupportedOperation name => "Operation '" ++ name ++ "' is not supported."
  | alternativesNotObject key => "Value of the OR filter '" ++ key ++ "' should be an object."
  | emptyAlternatives key =>
    "OR filter '" ++ key ++ "' should contain at least one condition."
  | emptyList key => "Filter '" ++ key ++ "' should contain at least one value."
  | unexpectedValue key expected =>
    "Value of '" ++ key ++ "' should be " ++ expected.words ++ "."
  | dataRequired => "Data should not be null."
  | dataEmpty => "Data should not be empty."
  | noAssignments => "Data should contain at least one field."
  | emptyRow row => "Row " ++ Nat.repr row ++ " should contain at least one field."
  | inconsistentRow row =>
    "Row " ++ Nat.repr row ++ " should contain the same fields as the first row."
  | routeTooShort => "Domain route should contain at least two domains."
  | ambiguousRouteFilter domain first second =>
    "Domain route filters '" ++ first ++ "' and '" ++ second ++ "' both target domain '" ++
      domain ++ "'."
  | invalidSort sort => "Sort '" ++ sort ++ "' is invalid."
  | invalidPageSize => "Page size should be greater than zero."
  | invalidIdentifier name => "'" ++ name ++ "' is not a valid identifier."

end CompileError

/-- Let a name in only if it is plain. The key that it was taken from is named
otherwise. -/
def checkIdentifier (key name : String) : Except CompileError Unit :=
  if isIdentifier name then .ok () else .error (.invalidIdentifier key)

end DomainSql
