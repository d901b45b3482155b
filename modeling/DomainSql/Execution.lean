import DomainSql.Metrics
import DomainSql.Plan

/-!
# Running plans

A plan is run by an executor, which answers each call after some number of turns.
The two calls of a query are made together. The call for the rows is the first to be
asked, so the rows are called for before the count is, and a failure of the rows in the
first turn means that the count is not called for. The first failure ends the query. A
query succeeds when both calls do, however long either takes.

After the first turn nothing fixes which of the two calls is asked next. Running a plan
follows one schedule: in every turn the rows are asked first and the count second. Another
schedule can only matter where both calls fail, since the failure that is met first may then
be the other one. What holds in whatever order the calls are asked is the subject of
`DomainSql.Proofs.Interleaving`.
-/
namespace DomainSql

open Sql

/-- A row of a result. -/
abbrev ResultRow := Mapping

/-- A failure that the database reports. -/
structure DatabaseError where
  kind : String
  message : String
deriving DecidableEq, Repr

/-- The words for a failure. -/
def DatabaseError.words (e : DatabaseError) : String := e.kind ++ ": " ++ e.message

/-- The answer to a call: it comes after a number of turns in which the call is
asked in vain. -/
structure Reply (α : Type) where
  delay : Nat := 0
  outcome : Except DatabaseError α

/-- What runs the statements of a plan. -/
structure Executor where
  query : Prepared → Reply (List ResultRow)
  count : Prepared → Reply UInt64
  update : Prepared → Reply UInt64

/-- A call that has been made. -/
inductive Call where
  | query (statement : Prepared)
  | count (statement : Prepared)
  | update (statement : Prepared)
deriving DecidableEq, Repr

/-- The result of a plan. -/
inductive Result where
  | page (list : List ResultRow) (total : UInt64)
  | affected (count : UInt64)

/-- The outcome of two calls that are asked in turns, given the number of turns in
which each is asked in vain. In each turn the first call is asked before the second;
with another schedule a different failure may come out where both calls fail. -/
def joinTurns {α β : Type} (first : Except DatabaseError α) (second : Except DatabaseError β) :
    Nat → Nat → Except DatabaseError (α × β)
  | 0, _ => do
    let a ← first
    return (a, ← second)
  | _ + 1, 0 => do
    let b ← second
    return (← first, b)
  | n + 1, m + 1 => joinTurns first second n m

/-- The outcome of two calls that are made together, by the schedule of `joinTurns`. -/
def Reply.join (first : Reply α) (second : Reply β) : Except DatabaseError (α × β) :=
  joinTurns first.outcome second.outcome first.delay second.delay

/-- Whether a call fails the first time it is asked. -/
def Reply.failsAtOnce (reply : Reply α) : Bool :=
  match reply.delay, reply.outcome with
  | 0, .error _ => true
  | _, _ => false

/-- A run of a plan: the outcome, the calls in the order in which they were made,
and the counters after it. -/
structure Run where
  outcome : Except DatabaseError Result
  calls : List Call
  counters : Counters

/-- Run a plan, with the calls of a query in the one schedule of `joinTurns`. A success
raises the counter of its kind, a failure raises none. -/
def Plan.run (executor : Executor) (counters : Counters) (plan : Plan) : Run :=
  match plan.work with
  | .query rows count =>
    let rows := (Statement.select rows).prepare
    let count := (Statement.select count).prepare
    let query := executor.query rows
    let calls := if query.failsAtOnce then [.query rows] else [.query rows, .count count]
    match query.join (executor.count count) with
    | .error e => ⟨.error e, calls, counters⟩
    | .ok (list, total) => ⟨.ok (.page list total), calls, counters.raise .query⟩
  | .insert statement => mutate (Statement.insert statement).prepare
  | .update statement => mutate (Statement.update statement).prepare
  | .delete statement => mutate (Statement.delete statement).prepare
where
  /-- Run the one statement of an insert, update or delete. -/
  mutate (statement : Prepared) : Run :=
    match (executor.update statement).outcome with
    | .error e => ⟨.error e, [.update statement], counters⟩
    | .ok count => ⟨.ok (.affected count), [.update statement], counters.raise .mutation⟩

/-- A result as a value. -/
def Result.toValue : Result → Value
  | .page list total =>
    .mapping [("list", .array (list.map Value.mapping)), ("total", .integer total.toNat)]
  | .affected count => .integer count.toNat

/-- The reason why a request is not answered with a result. -/
inductive RequestError where
  | compile (e : CompileError)
  | database (e : DatabaseError)
deriving DecidableEq, Repr

namespace RequestError

/-- The code of a reason. -/
def code : RequestError → Nat
  | .compile e => e.code
  | .database _ => 1

/-- The name of a reason. -/
def name : RequestError → String
  | .compile e => e.name
  | .database _ => "DATABASE_ERROR"

/-- The words for a reason. -/
def message : RequestError → String
  | .compile e => e.message
  | .database e => e.words

end RequestError

/-- The envelope of an answer. -/
inductive Response where
  | success (data : Result)
  | failure (code : Nat) (message : String)

/-- An envelope as a value. -/
def Response.toValue : Response → Value
  | .success data => .mapping [("success", .bool true), ("data", data.toValue)]
  | .failure code message =>
    .mapping [("success", .bool false), ("code", .integer code), ("message", .text message)]

/-- A handled request: its envelope, the calls that were made, the counters after
it, and what happened on the way. -/
structure Handled where
  response : Response
  calls : List Call
  counters : Counters
  events : List Event

/-- The answer to a request that failed. Every failure is counted and told. -/
def Handled.failed (e : RequestError) (calls : List Call) (counters : Counters)
    (events : List Event) : Handled where
  response := .failure e.code e.message
  calls := calls
  counters := counters.raise .error
  events := events ++ [.failed e.message e.code e.name]

/-- Compile and run a request. A failure is reported in the envelope. -/
def handle (metadata : Metadata) (executor : Executor) (counters : Counters)
    (request : Request) : Handled :=
  let compiled := compile metadata request
  match compiled.outcome with
  | .error e => Handled.failed (.compile e) [] counters compiled.events
  | .ok plan =>
    let run := plan.run executor counters
    match run.outcome with
    | .error e => Handled.failed (.database e) run.calls run.counters compiled.events
    | .ok result => ⟨.success result, run.calls, run.counters, compiled.events⟩

end DomainSql
