import DomainSql.Route
import DomainSql.Sort

/-!
# Statements of requests

Each kind of statement takes from a request what it needs and leaves the rest
unread. The conditions of a query, of its count, of an update and of a removal are
the same function of the request's route and filters.
-/
namespace DomainSql

open Sql

/-- The domain of a request; an empty name counts as no name. -/
def Request.domainName (request : Request) : Except CompileError String :=
  match request.domain with
  | none | some "" => .error .missingDomain
  | some domain => do
    checkIdentifier domain domain
    return domain

/-- The conditions of a request. -/
def Request.conditions (naming : Naming) (request : Request) :
    Traced CompileError (List Condition) :=
  compileWhere naming request.filters request.domainRoute

/-- The columns that a query gives. They are named as they are, and an empty list
asks for all of them. -/
def Request.projection (request : Request) : Except CompileError Projection :=
  match request.columns with
  | none | some [] => .ok .all
  | some columns => do
    columns.forM fun column => checkIdentifier column column
    return .columns columns

/-- The selection of the rows of a query. -/
def compileSelect (metadata : Metadata) (request : Request) : Traced CompileError Select := do
  let domain ← request.domainName
  let projection ← request.projection
  let conditions ← request.conditions metadata.naming
  let select := { Select.rowsOf (metadata.naming.tableName domain) with projection, conditions }
  match request.page with
  | none => return select
  | some page => do
    let order ← compileSort metadata.naming page.sort
    let window ← compileWindow metadata.paging page
    return { select with order, window }

/-- A statement about all rows that meet the conditions of a request. It is made of
their table and the conditions. -/
def compileAbout (build : TableName → List Condition → α) (metadata : Metadata)
    (request : Request) : Traced CompileError α := do
  let domain ← request.domainName
  let conditions ← request.conditions metadata.naming
  return build (metadata.naming.tableName domain) conditions

/-- The selection that counts the rows of a query, whatever its page. -/
def compileCount (metadata : Metadata) (request : Request) : Traced CompileError Select :=
  compileAbout Select.countOf metadata request

/-- The rows of an insert or update, of which there has to be a first one. -/
def Request.rows (request : Request) : Except CompileError (Row × List Row) :=
  match request.data with
  | none => .error .dataRequired
  | some [] => .error .dataEmpty
  | some (first :: others) => .ok (first, others)

/-- The value of a row under a key that the first row has. -/
def cellOf (index : Nat) (row : Row) (key : String) : Except CompileError Scalar :=
  match Mapping.value? row key with
  | none => .error (.inconsistentRow index)
  | some value => scalarOf key value

/-- The values of a row in the order of the first row's keys. -/
def compileRow (keys : List String) (index : Nat) (row : Row) :
    Except CompileError (List Scalar) :=
  if row.isEmpty then .error (.emptyRow index)
  else if row.length ≠ keys.length then .error (.inconsistentRow index)
  else keys.mapM (cellOf index row)

/-- The values of rows, counted from an index. -/
def compileRows (keys : List String) : Nat → List Row → Except CompileError (List (List Scalar))
  | _, [] => .ok []
  | index, row :: rows => do
    let values ← compileRow keys index row
    return values :: (← compileRows keys (index + 1) rows)

/-- The insertion of the rows of a request. The columns come from the first row,
and every other row has the same keys, in any order. -/
def compileInsert (metadata : Metadata) (request : Request) : Except CompileError Insert := do
  let (first, others) ← request.rows
  let domain ← request.domainName
  if first.isEmpty then throw (.emptyRow 0)
  let keys := Mapping.keys first
  keys.forM fun key => checkIdentifier key key
  let rows ← compileRows keys 0 (first :: others)
  return {
    table := metadata.naming.tableName domain
    columns := keys.map metadata.naming.columnName
    rows }

/-- The assignment of a field. -/
def compileAssignment (naming : Naming) (field : String × Value) :
    Except CompileError (ColumnName × Scalar) := do
  checkIdentifier field.1 field.1
  let value ← scalarOf field.1 field.2
  return (naming.columnName field.1, value)

/-- The assignment of the fields of the first row. -/
def compileUpdate (metadata : Metadata) (request : Request) : Traced CompileError Update := do
  let (first, others) ← request.rows
  if first.isEmpty then Traced.lift (.error .noAssignments)
  Traced.tell (if others.isEmpty then [] else [.rowsIgnored others.length])
  let domain ← request.domainName
  let assignments ← Traced.lift (first.mapM (compileAssignment metadata.naming))
  let conditions ← request.conditions metadata.naming
  return { table := metadata.naming.tableName domain, assignments, conditions }

/-- The removal of the rows that meet the conditions, which are all rows if there
are none. -/
def compileDelete (metadata : Metadata) (request : Request) : Traced CompileError Delete :=
  compileAbout Delete.mk metadata request

end DomainSql
