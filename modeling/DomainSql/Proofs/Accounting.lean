import DomainSql.Proofs.Acceptance
import DomainSql.Session

/-!
# The counters of a session

What a counter counts is told from the steps of a session and their answers alone:
queries that were answered, other requests that were answered, and failure envelopes.
Counting happens in two places, on a result where the plan is run and on a failure
where the envelope is made, so that each step is followed from one to the other.

A counter has 64 bits and starts again from zero, so that the numbers agree modulo
2^64.
-/
namespace DomainSql

namespace Step

/-- The request that a step is about. -/
def request? : Step → Option Request
  | .handle request _ | .execute request _ => some request
  | .register | .gather => none

/-- The operation of the request that a step is about. -/
def operation? (step : Step) : Option Operation :=
  step.request?.bind fun request => request.operationKind.toOption

end Step

/-- Whether an envelope holds a result. -/
def Response.isSuccess : Response → Bool
  | .success _ => true
  | .failure .. => false

/-- A written envelope says so itself. -/
theorem Response.exists_envelope (response : Response) : ∃ entries,
    response.toValue = .mapping entries ∧
      Mapping.value? entries "success" = some (.bool response.isSuccess) := by
  cases response <;> exact ⟨_, rfl, rfl⟩

namespace Answer

/-- Whether an answer gives a result, in an envelope or without one. -/
def isResult : Answer → Bool
  | .handled response _ _ => response.isSuccess
  | .executed .. => true
  | _ => false

/-- Whether an answer is the envelope of a failure. -/
def isFailureEnvelope : Answer → Bool
  | .handled response _ _ => !response.isSuccess
  | _ => false

/-- The calls that were made for an answer. -/
def calls : Answer → List Call
  | .handled _ calls _ | .executed _ _ calls _ | .broken _ calls _ => calls
  | .refused .. | .registered | .notRegistered _ | .families _ => []

end Answer

/-- What a counter counts: queries with a result, mutations with a result, and
failure envelopes. -/
def Counter.counts : Counter → Step × Answer → Bool
  | .query, (step, answer) => answer.isResult && step.operation? = some .query
  | .mutation, (step, answer) =>
    answer.isResult && [some .insert, some .update, some .delete].contains step.operation?
  | .error, (_, answer) => answer.isFailureEnvelope

/-- The counter that the results of an operation raise. -/
def Operation.counter : Operation → Counter
  | .query => .query
  | .insert | .update | .delete => .mutation

/-- A counter is raised by one, and the others stay. -/
theorem Counters.value_raise (counters : Counters) (raised counter : Counter) :
    (counters.raise raised).value counter =
      counters.value counter + if counter = raised then 1 else 0 := by
  cases raised <;> cases counter <;> simp [raise, value]

/-- A result of a plan raises the counter of its operation, and a failure raises none. -/
theorem Plan.counters_run (executor : Executor) (counters : Counters) (plan : Plan) :
    (plan.run executor counters).counters = match (plan.run executor counters).outcome with
      | .ok _ => counters.raise plan.work.operation.counter
      | .error _ => counters := by
  have mutated (statement : Sql.Prepared) :
      (Plan.run.mutate executor counters statement).counters =
        match (Plan.run.mutate executor counters statement).outcome with
        | .ok _ => counters.raise .mutation
        | .error _ => counters := by
    unfold Plan.run.mutate
    split <;> rfl
  obtain ⟨domain, work⟩ := plan
  cases work with
  | query rows count =>
    simp only [run]
    split <;> rfl
  | insert statement | update statement | delete statement => exact mutated _

/-- A result is counted by the counter of its operation and by no other. -/
theorem counts_of_result {step : Step} {answer : Answer} {operation : Operation}
    (result : answer.isResult = true) (noFailure : answer.isFailureEnvelope = false)
    (kind : step.operation? = some operation) (counter : Counter) :
    counter.counts (step, answer) = decide (some operation.counter = some counter) := by
  cases counter <;> cases operation <;>
    simp [Counter.counts, Operation.counter, result, noFailure, kind]

/-- A failure envelope is counted by the counter of errors alone. -/
theorem counts_of_failure {step : Step} {answer : Answer} (noResult : answer.isResult = false)
    (failure : answer.isFailureEnvelope = true) (counter : Counter) :
    counter.counts (step, answer) = decide (some .error = some counter) := by
  cases counter <;> simp [Counter.counts, noResult, failure]

/-- Nothing else is counted. -/
theorem counts_of_neither {step : Step} {answer : Answer} (noResult : answer.isResult = false)
    (noFailure : answer.isFailureEnvelope = false) (counter : Counter) :
    counter.counts (step, answer) = decide (none = some counter) := by
  cases counter <;> simp [Counter.counts, noResult, noFailure]

/-- The counter that a step raises, if it raises one, is the one that counts it. -/
structure Session.Raises (session : Session) (step : Step) (raised : Option Counter) : Prop where
  counters : (session.step step).1.counters = raised.elim session.counters session.counters.raise
  counts : ∀ counter,
    counter.counts (step, (session.step step).2) = decide (raised = some counter)

namespace Session

variable {session : Session} {request : Request} {executor : Executor}

/-- A request that is handled raises one counter: that of its operation with a result, and
that of errors with a failure. -/
theorem exists_raises_handle (session : Session) (request : Request) (executor : Executor) :
    ∃ raised, session.Raises (.handle request executor) (some raised) := by
  cases compiled : (compile session.metadata request).outcome with
  | error e =>
    refine ⟨.error, ?_, counts_of_failure ?_ ?_⟩ <;>
      simp only [step, DomainSql.handle, compiled] <;> rfl
  | ok plan =>
    have counted := plan.counters_run executor session.counters
    have kind : (Step.handle request executor).operation? = some plan.work.operation := by
      simp only [Step.operation?, Step.request?, Option.bind_some, (work_of_compile compiled).1]
      rfl
    cases outcome : (plan.run executor session.counters).outcome with
    | error e =>
      rw [outcome] at counted
      refine ⟨.error, ?_, counts_of_failure ?_ ?_⟩ <;>
        simp only [step, DomainSql.handle, compiled, outcome, Handled.failed, counted] <;> rfl
    | ok result =>
      rw [outcome] at counted
      refine ⟨plan.work.operation.counter, ?_, counts_of_result ?_ ?_ kind⟩ <;>
        simp only [step, DomainSql.handle, compiled, outcome, counted] <;> rfl

/-- An execution raises the counter of its operation with a result, and no counter
otherwise. -/
theorem exists_raises_execute (session : Session) (request : Request) (executor : Executor) :
    ∃ raised, session.Raises (.execute request executor) raised := by
  cases compiled : (compile session.metadata request).outcome with
  | error e =>
    refine ⟨none, ?_, counts_of_neither ?_ ?_⟩ <;> simp only [step, compiled] <;> rfl
  | ok plan =>
    have counted := plan.counters_run executor session.counters
    have kind : (Step.execute request executor).operation? = some plan.work.operation := by
      simp only [Step.operation?, Step.request?, Option.bind_some, (work_of_compile compiled).1]
      rfl
    cases outcome : (plan.run executor session.counters).outcome with
    | error e =>
      rw [outcome] at counted
      refine ⟨none, ?_, counts_of_neither ?_ ?_⟩ <;>
        simp only [step, compiled, outcome, counted] <;> rfl
    | ok result =>
      rw [outcome] at counted
      refine ⟨some plan.work.operation.counter, ?_, counts_of_result ?_ ?_ kind⟩ <;>
        simp only [step, compiled, outcome, counted] <;> rfl

/-- All three counters are registered. -/
def Registered (session : Session) : Prop := session.registry = ⟨[.query, .mutation, .error]⟩

/-- Registering again fails at the first counter, and leaves everything as it was. -/
theorem step_register (registered : session.Registered) :
    session.step .register = (session, .notRegistered .duplicate) := by
  have refused : session.registry.registerAll = .error .duplicate := by
    rw [registered]
    rfl
  simp only [step, refused]

/-- Every step raises at most one counter, the one that counts it. -/
theorem exists_raises (registered : session.Registered) (step : Step) :
    ∃ raised, session.Raises step raised := by
  cases step with
  | handle request executor =>
    obtain ⟨raised, raises⟩ := exists_raises_handle session request executor
    exact ⟨some raised, raises⟩
  | execute request executor => exact exists_raises_execute session request executor
  | register =>
    refine ⟨none, ?_, counts_of_neither ?_ ?_⟩ <;> rw [step_register registered] <;> rfl
  | gather => exact ⟨none, rfl, counts_of_neither rfl rfl⟩

/-- The values of the counters after a step. -/
theorem Raises.value {step : Step} {raised : Option Counter} (raises : session.Raises step raised)
    (counter : Counter) : (session.step step).1.counters.value counter =
      session.counters.value counter +
        if counter.counts (step, (session.step step).2) then 1 else 0 := by
  rw [raises.counters, raises.counts]
  cases raised with
  | none => simp
  | some raised => simp [Counters.value_raise, eq_comm]

/-- A step changes neither the metadata nor what is registered. -/
theorem step_frame (registered : session.Registered) (step : Step) :
    (session.step step).1.metadata = session.metadata ∧
      (session.step step).1.registry = session.registry := by
  cases step with
  | handle request executor => exact ⟨rfl, rfl⟩
  | execute request executor =>
    simp only [Session.step]
    cases (compile session.metadata request).outcome with
    | error e => exact ⟨rfl, rfl⟩
    | ok plan =>
      simp only
      cases (plan.run executor session.counters).outcome <;> exact ⟨rfl, rfl⟩
  | register =>
    rw [step_register registered]
    exact ⟨rfl, rfl⟩
  | gather => exact ⟨rfl, rfl⟩

/-- Counters that have been registered stay registered. -/
theorem Registered.step (registered : session.Registered) (step : Step) :
    (session.step step).1.Registered :=
  (step_frame registered step).2.trans registered

/-- Nor do any number of steps. -/
theorem run_frame (registered : session.Registered) (steps : List Step) :
    (session.run steps).1.metadata = session.metadata ∧
      (session.run steps).1.registry = session.registry := by
  induction steps generalizing session with
  | nil => exact ⟨rfl, rfl⟩
  | cons step steps ih =>
    obtain ⟨sameMetadata, sameRegistry⟩ := step_frame registered step
    obtain ⟨keptMetadata, keptRegistry⟩ := ih (registered.step step)
    exact ⟨keptMetadata.trans sameMetadata, keptRegistry.trans sameRegistry⟩

/-- The counters go up by as many steps as they count. -/
theorem Registered.value_run (registered : session.Registered) (steps : List Step)
    (counter : Counter) : (session.run steps).1.counters.value counter =
      session.counters.value counter +
        UInt64.ofNat ((steps.zip (session.run steps).2).countP counter.counts) := by
  induction steps generalizing session with
  | nil => simp [Session.run]
  | cons step steps ih =>
    obtain ⟨raised, raises⟩ := exists_raises registered step
    have ofRest := ih (registered.step step)
    rw [raises.value counter] at ofRest
    simp only [Session.run, List.zip_cons_cons, List.countP_cons, ofRest, UInt64.ofNat_add,
      UInt64.add_assoc]
    congr 1
    rw [UInt64.add_comm]
    split <;> rfl

/-- No call is made for a request that is not compiled. -/
theorem calls_of_error {e : CompileError}
    (refused : (compile session.metadata request).outcome = .error e) :
    (session.step (.handle request executor)).2.calls = [] ∧
      (session.step (.execute request executor)).2.calls = [] := by
  constructor
  · simp only [step, DomainSql.handle, refused]
    rfl
  · simp only [step, refused]
    rfl

end Session

/-- A handled request raises one counter, and its envelope says `success` unless that is
the counter of errors. -/
structure Session.CountsHandled (before after : Session) (response : Response)
    (raised : Counter) : Prop where
  counters : after.counters = before.counters.raise raised
  envelope : ∃ entries, response.toValue = .mapping entries ∧
    Mapping.value? entries "success" = some (.bool (raised != .error))

/-- Whatever becomes of a request that is handled, one counter is raised for it and its envelope
agrees with that counter. -/
theorem Session.exists_countsHandled (session : Session) (request : Request)
    (executor : Executor) : ∃ raised response calls events,
      (session.step (.handle request executor)).2 = .handled response calls events ∧
      session.CountsHandled (session.step (.handle request executor)).1 response raised := by
  obtain ⟨raised, raises⟩ := session.exists_raises_handle request executor
  let handled := DomainSql.handle session.metadata executor session.counters request
  have said : (!handled.response.isSuccess) = decide (some raised = some .error) :=
    raises.counts .error
  have success : handled.response.isSuccess = (raised != .error) := by
    rw [← Bool.not_not handled.response.isSuccess, said]
    cases raised <;> rfl
  refine ⟨raised, _, _, _, rfl, raises.counters, ?_⟩
  rw [← success]
  exact handled.response.exists_envelope

/-- Whatever steps a session has taken from freshly registered counters, the counters
account for them: each holds the number of steps that it counts. A request that is handled
next raises one counter, which is that of errors when its envelope reports a failure. No
call is made for a request that is not compiled, and registering again changes nothing. -/
theorem Session.counters_account (metadata : Metadata) :
    ∃ session, Session.start metadata = .ok session ∧ ∀ steps,
      let (reached, answers) := session.run steps
      (∀ counter, reached.counters.value counter =
        UInt64.ofNat ((steps.zip answers).countP counter.counts)) ∧
      (∀ request executor, ∃ raised response calls events,
        (reached.step (.handle request executor)).2 = .handled response calls events ∧
        reached.CountsHandled (reached.step (.handle request executor)).1 response raised) ∧
      (∀ request executor, (∃ plan, (compile metadata request).outcome = .ok plan) ∨
        (reached.step (.handle request executor)).2.calls = [] ∧
          (reached.step (.execute request executor)).2.calls = []) ∧
      reached.step .register = (reached, .notRegistered .duplicate) := by
  let session : Session :=
    { metadata, registry := ⟨[.query, .mutation, .error]⟩, counters := {} }
  have registered : session.Registered := rfl
  refine ⟨session, rfl, fun steps => ⟨?_, ?_, ?_, step_register ?_⟩⟩
  · intro counter
    rw [registered.value_run steps counter]
    cases counter <;> exact UInt64.zero_add _
  · exact exists_countsHandled (session.run steps).1
  · intro request executor
    have sameMetadata : (session.run steps).1.metadata = metadata :=
      (run_frame registered steps).1
    cases compiled : (compile metadata request).outcome with
    | ok plan => exact Or.inl ⟨plan, rfl⟩
    | error e => exact Or.inr (calls_of_error (sameMetadata ▸ compiled))
  · exact (run_frame registered steps).2.trans registered

end DomainSql
