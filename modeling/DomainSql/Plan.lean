import DomainSql.Compile
import DomainSql.Sql.Text

/-!
# Plans

A plan is everything that is needed to answer a request: the domain, and one
statement, or for a query the two statements that give the page and the total.
-/
namespace DomainSql

open Sql

/-- The kinds of request. -/
inductive Operation where
  | query
  | insert
  | update
  | delete
deriving DecidableEq, Repr

namespace Operation

/-- The operations in the order in which they are listed. -/
def all : List Operation := [query, insert, update, delete]

/-- The name of an operation in a request. -/
def name : Operation → String
  | query => "query"
  | insert => "insert"
  | update => "update"
  | delete => "delete"

/-- The operation of a name, in exactly this spelling. -/
def ofName? (name : String) : Option Operation := all.find? (·.name = name)

end Operation

/-- The statements of a plan. -/
inductive Work where
  | query (rows count : Select)
  | insert (statement : Insert)
  | update (statement : Update)
  | delete (statement : Delete)

/-- The operation that work belongs to. -/
def Work.operation : Work → Operation
  | .query .. => .query
  | .insert _ => .insert
  | .update _ => .update
  | .delete _ => .delete

/-- The statements of work; for a query the rows come first. -/
def Work.statements : Work → List Statement
  | .query rows count => [.select rows, .select count]
  | .insert statement => [.insert statement]
  | .update statement => [.update statement]
  | .delete statement => [.delete statement]

/-- Everything that is needed to answer a request. -/
structure Plan where
  domain : String
  work : Work

/-- The statements of a plan as they are given to a database. -/
def Plan.prepared (plan : Plan) : List Prepared := plan.work.statements.map Statement.prepare

/-- The operation of a request; an empty name counts as no name. -/
def Request.operationKind (request : Request) : Except CompileError Operation :=
  match request.operation with
  | none | some "" => .error .missingOperation
  | some name =>
    match Operation.ofName? name with
    | some operation => .ok operation
    | none => .error (.unsupportedOperation name)

/-- The work of an operation. -/
def compileWork (metadata : Metadata) (request : Request) :
    Operation → Traced CompileError Work
  | .query => do
    let rows ← compileSelect metadata request
    let count ← compileCount metadata request
    return .query rows count
  | .insert => do return .insert (← compileInsert metadata request)
  | .update => do return .update (← compileUpdate metadata request)
  | .delete => do return .delete (← compileDelete metadata request)

/-- The events of a compiled plan, one for each statement. -/
def Plan.events (plan : Plan) : List Event :=
  plan.prepared.map fun prepared =>
    .compiled plan.work.operation.name plan.domain prepared.sql prepared.arguments.length

/-- Compile a request. -/
def compile (metadata : Metadata) (request : Request) : Traced CompileError Plan := do
  let operation ← request.operationKind
  let domain ← request.domainName
  let work ← compileWork metadata request operation
  let plan : Plan := { domain, work }
  Traced.tell plan.events
  return plan

end DomainSql
