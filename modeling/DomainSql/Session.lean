import DomainSql.Execution

/-!
# Sessions

A session handles requests one after the other under the same metadata, and counts
how they ended.
-/
namespace DomainSql

/-- What a session keeps from step to step. -/
structure Session where
  metadata : Metadata
  registry : Registry
  counters : Counters
deriving Inhabited

/-- A step of a session. -/
inductive Step where
  /-- Answer a request with an envelope. -/
  | handle (request : Request) (executor : Executor)
  /-- Compile a request and run its plan, with failures left to the caller. -/
  | execute (request : Request) (executor : Executor)
  /-- Register the counters once more. -/
  | register
  /-- Gather the registered counters. -/
  | gather

/-- The answer to a step. -/
inductive Answer where
  | handled (response : Response) (calls : List Call) (events : List Event)
  | executed (operation : Operation) (result : Result) (calls : List Call)
      (events : List Event)
  | refused (e : CompileError) (events : List Event)
  | broken (e : DatabaseError) (calls : List Call) (events : List Event)
  | registered
  | notRegistered (e : MetricsError)
  | families (families : List (String × String × UInt64))

/-- A session with freshly registered counters. -/
def Session.start (metadata : Metadata) : Except MetricsError Session := do
  return { metadata, registry := ← Registry.registerAll {}, counters := {} }

/-- Take a step. -/
def Session.step (session : Session) : Step → Session × Answer
  | .handle request executor =>
    let handled := handle session.metadata executor session.counters request
    ({ session with counters := handled.counters },
      .handled handled.response handled.calls handled.events)
  | .execute request executor =>
    let compiled := compile session.metadata request
    match compiled.outcome with
    | .error e => (session, .refused e compiled.events)
    | .ok plan =>
      let run := plan.run executor session.counters
      let after := { session with counters := run.counters }
      match run.outcome with
      | .error e => (after, .broken e run.calls compiled.events)
      | .ok result =>
        (after, .executed plan.work.operation result run.calls compiled.events)
  | .register =>
    match session.registry.registerAll with
    | .error e => (session, .notRegistered e)
    | .ok registry => ({ session with registry }, .registered)
  | .gather => (session, .families (session.registry.gather session.counters))

/-- Take steps in order and collect the answers. -/
def Session.run (session : Session) : List Step → Session × List Answer
  | [] => (session, [])
  | step :: steps =>
    let (after, answer) := session.step step
    let (last, answers) := after.run steps
    (last, answer :: answers)

end DomainSql
