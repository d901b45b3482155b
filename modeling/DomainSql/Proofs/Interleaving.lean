import DomainSql.Execution

/-!
# The two calls of a query in any order of turns

The calls for the page and for the total are under way at the same time, and nothing
fixes the order in which they are asked. Here an order is a list of turns. The rows
are asked first, then in every turn either call that has not answered, and the turns
end with the first failure or with the second answer. A call is made when it is asked
for the first time.

Running a plan asks in one such order. Every order ends, and what comes out in the end
depends on the order only in one way: where both calls fail, it decides which of the
two failures is met first.
-/
namespace DomainSql

open Sql

/-- The calls of a query. -/
inductive Side where
  | rows
  | count
deriving DecidableEq, Repr

/-- How far a call has come: it has not been made, it will be asked in vain some more
times, or it has answered. -/
inductive Progress (α : Type) where
  | unmade
  | waiting (inVain : Nat)
  | answered (outcome : Except DatabaseError α)

namespace Progress

/-- How far a call has come when it is asked with that many vain turns ahead of it. -/
def asked (reply : Reply α) : Nat → Progress α
  | 0 => .answered reply.outcome
  | inVain + 1 => .waiting inVain

/-- Ask a call. The first time makes the call, and an answer stays. -/
def ask (reply : Reply α) : Progress α → Progress α
  | .unmade => asked reply reply.delay
  | .waiting inVain => asked reply inVain
  | .answered outcome => .answered outcome

/-- Whether a call has been made. -/
def made : Progress α → Bool
  | .unmade => false
  | _ => true

/-- Whether a call has answered. -/
def hasAnswered : Progress α → Bool
  | .answered _ => true
  | _ => false

/-- The number of turns that a call needs until it answers. -/
def turnsLeft (reply : Reply α) : Progress α → Nat
  | .unmade => reply.delay + 1
  | .waiting inVain => inVain + 1
  | .answered _ => 0

/-- If a call has answered, then with its own outcome. -/
def Faithful (reply : Reply α) (progress : Progress α) : Prop :=
  ∀ outcome, progress = .answered outcome → outcome = reply.outcome

variable {reply : Reply α} {progress : Progress α}

/-- A call that has been asked has been made, whatever came of it. -/
theorem made_asked (reply : Reply α) (inVain : Nat) : (asked reply inVain).made = true := by
  cases inVain <;> rfl

/-- Asking a call makes it, if it has not been made before. -/
theorem made_ask : (progress.ask reply).made = true := by
  cases progress with
  | unmade => exact made_asked reply reply.delay
  | waiting inVain => exact made_asked reply inVain
  | answered outcome => rfl

/-- A call that has not been made has no answer that could differ. -/
theorem faithful_unmade : Progress.unmade.Faithful reply := nofun

/-- The answer that asking brings is the call's own. -/
theorem faithful_asked (inVain : Nat) : (asked reply inVain).Faithful reply := by
  intro outcome isAnswer
  cases inVain <;> cases isAnswer
  rfl

/-- Another turn brings no other answer. -/
theorem Faithful.ask (faithful : progress.Faithful reply) :
    (progress.ask reply).Faithful reply := by
  cases progress with
  | unmade => exact faithful_asked reply.delay
  | waiting inVain => exact faithful_asked inVain
  | answered outcome => exact faithful

/-- After it has been asked once a call needs the turns in vain that are ahead of it. -/
theorem turnsLeft_asked (inVain : Nat) : (asked reply inVain).turnsLeft reply = inVain := by
  cases inVain <;> rfl

/-- A turn brings a call that has not answered one turn closer to its answer. -/
theorem turnsLeft_ask (reply : Reply α) (open_ : progress.hasAnswered = false) :
    (progress.ask reply).turnsLeft reply + 1 = progress.turnsLeft reply := by
  cases progress with
  | unmade => exact congrArg (· + 1) (turnsLeft_asked reply.delay)
  | waiting inVain => exact congrArg (· + 1) (turnsLeft_asked inVain)
  | answered outcome => cases open_

end Progress

/-- A query that is under way: how far its calls have come, and the calls that have
been made, in order. -/
structure Joint where
  rows : Progress (List ResultRow) := .unmade
  count : Progress UInt64 := .unmade
  calls : List Call := []

namespace Joint

/-- The outcome of a query: a failure as soon as there is one, and otherwise the two
answers together. -/
def outcome? (joint : Joint) : Option (Except DatabaseError (List ResultRow × UInt64)) :=
  match joint.rows, joint.count with
  | .answered (.error e), _ => some (.error e)
  | _, .answered (.error e) => some (.error e)
  | .answered (.ok list), .answered (.ok total) => some (.ok (list, total))
  | _, _ => none

/-- Whether a call may be asked: it has not answered, and the query has not ended. -/
def awaits (joint : Joint) : Side → Bool
  | .rows => joint.outcome?.isNone && !joint.rows.hasAnswered
  | .count => joint.outcome?.isNone && !joint.count.hasAnswered

/-- The run that a query ends with. A success raises the counter of queries. -/
def run? (counters : Counters) (joint : Joint) : Option Run :=
  joint.outcome?.map fun
    | .ok (list, total) => ⟨.ok (.page list total), joint.calls, counters.raise .query⟩
    | .error e => ⟨.error e, joint.calls, counters⟩

section
variable (executor : Executor) (rows count : Prepared)

/-- One turn of a query. -/
def ask (joint : Joint) : Side → Joint
  | .rows =>
    { joint with
      rows := joint.rows.ask (executor.query rows)
      calls := joint.calls ++ if joint.rows.made then [] else [.query rows] }
  | .count =>
    { joint with
      count := joint.count.ask (executor.count count)
      calls := joint.calls ++ if joint.count.made then [] else [.count count] }

/-- Turns of a query one after the other, none of which may ask in vain for what is
there already. -/
def follow (joint : Joint) : List Side → Option Joint
  | [] => some joint
  | side :: order => if joint.awaits side then (joint.ask executor rows count side).follow order
    else none

/-- A query runs in an order of turns that asks for the rows first and goes on to the
end. -/
def RunsIn (counters : Counters) (order : List Side) (run : Run) : Prop :=
  order.head? = some .rows ∧
    ∃ last, follow executor rows count {} order = some last ∧ last.run? counters = some run

/-- The number of turns until both calls have answered. -/
def turnsLeft (joint : Joint) : Nat :=
  joint.rows.turnsLeft (executor.query rows) + joint.count.turnsLeft (executor.count count)

/-- What is true from the first turn on: the rows have been called for, the count is
called for at most once and after the rows, and answers are those of the calls. -/
structure Reached (joint : Joint) : Prop where
  made : joint.rows.made = true
  calls : joint.calls =
    if joint.count.made then [.query rows, .count count] else [.query rows]
  rows : joint.rows.Faithful (executor.query rows)
  count : joint.count.Faithful (executor.count count)

end

variable {executor : Executor} {rows count : Prepared} {joint : Joint}

/-- The first turn calls for the rows. -/
theorem reached_first : Reached executor rows count (ask executor rows count {} .rows) where
  made := Progress.made_asked (executor.query rows) _
  calls := rfl
  rows := Progress.faithful_asked (executor.query rows).delay
  count := Progress.faithful_unmade

/-- What is true from the first turn on stays true in every turn. -/
theorem Reached.ask (reached : Reached executor rows count joint) (side : Side) :
    Reached executor rows count (joint.ask executor rows count side) := by
  cases side with
  | rows =>
    refine ⟨Progress.made_ask, ?_, reached.rows.ask, reached.count⟩
    simp only [Joint.ask, reached.made, if_true, List.append_nil]
    exact reached.calls
  | count =>
    refine ⟨reached.made, ?_, reached.rows, reached.count.ask⟩
    have madeNow : (joint.count.ask (executor.count count)).made = true := Progress.made_ask
    simp only [Joint.ask, madeNow, if_true, reached.calls]
    cases joint.count.made <;> rfl

/-- What is true from the first turn on is true at the end of every order of turns. -/
theorem Reached.follow {order : List Side} {last : Joint}
    (reached : Reached executor rows count joint)
    (followed : joint.follow executor rows count order = some last) :
    Reached executor rows count last := by
  induction order generalizing joint with
  | nil =>
    cases followed
    exact reached
  | cons side order ih =>
    unfold Joint.follow at followed
    split at followed
    · exact ih (reached.ask side) followed
    · cases followed

variable (executor rows count) in
/-- Every turn is one of the turns that are left. -/
theorem turnsLeft_ask {side : Side} (awaited : joint.awaits side = true) :
    (joint.ask executor rows count side).turnsLeft executor rows count + 1 =
      joint.turnsLeft executor rows count := by
  cases side with
  | rows =>
    have open_ : joint.rows.hasAnswered = false := by
      simpa using (Bool.and_eq_true_iff.mp awaited).2
    have closer := Progress.turnsLeft_ask (executor.query rows) open_
    simp only [turnsLeft, Joint.ask]
    omega
  | count =>
    have open_ : joint.count.hasAnswered = false := by
      simpa using (Bool.and_eq_true_iff.mp awaited).2
    have closer := Progress.turnsLeft_ask (executor.count count) open_
    simp only [turnsLeft, Joint.ask]
    omega

/-- No order is longer than the turns that were left in the beginning. -/
theorem length_order {order : List Side} {last : Joint}
    (followed : joint.follow executor rows count order = some last) :
    order.length + last.turnsLeft executor rows count =
      joint.turnsLeft executor rows count := by
  induction order generalizing joint with
  | nil =>
    cases followed
    simp
  | cons side order ih =>
    unfold follow at followed
    split at followed
    · rename_i awaited
      have ofRest := ih followed
      have ofTurn := turnsLeft_ask executor rows count awaited
      simp only [List.length_cons]
      omega
    · cases followed

/-- As long as a query has not ended one of its calls may be asked. -/
theorem exists_awaited (unended : joint.outcome? = none) : ∃ side, joint.awaits side = true := by
  cases open_ : joint.rows.hasAnswered with
  | false => exact ⟨.rows, by simp [awaits, unended, open_]⟩
  | true =>
    refine ⟨.count, ?_⟩
    obtain ⟨rows, count, calls⟩ := joint
    rcases rows with _ | _ | (_ | _) <;> rcases count with _ | _ | (_ | _) <;>
      simp_all [awaits, outcome?, Progress.hasAnswered]

/-- An order may be followed in two parts. -/
theorem follow_append {first second : List Side} {middle : Joint}
    (followed : joint.follow executor rows count first = some middle) :
    joint.follow executor rows count (first ++ second) =
      middle.follow executor rows count second := by
  induction first generalizing joint with
  | nil =>
    cases followed
    rfl
  | cons side first ih =>
    unfold follow at followed
    split at followed
    · rename_i awaited
      simp only [List.cons_append, follow, awaited, if_true]
      exact ih followed
    · cases followed

variable (executor rows count) in
/-- A query can always go on to its end, because every turn is one less to go. -/
theorem exists_end (joint : Joint) : ∃ order last outcome,
    joint.follow executor rows count order = some last ∧ last.outcome? = some outcome := by
  generalize left : joint.turnsLeft executor rows count = turns
  induction turns generalizing joint with
  | zero =>
    cases ended : joint.outcome? with
    | some outcome => exact ⟨[], joint, outcome, rfl, ended⟩
    | none =>
      obtain ⟨side, awaited⟩ := exists_awaited ended
      have ofTurn := turnsLeft_ask executor rows count awaited
      omega
  | succ turns ih =>
    cases ended : joint.outcome? with
    | some outcome => exact ⟨[], joint, outcome, rfl, ended⟩
    | none =>
      obtain ⟨side, awaited⟩ := exists_awaited ended
      have ofTurn := turnsLeft_ask executor rows count awaited
      obtain ⟨order, last, outcome, followed, atEnd⟩ :=
        ih (joint.ask executor rows count side) (by omega)
      exact ⟨side :: order, last, outcome, by simp [follow, awaited, followed], atEnd⟩

/-- An outcome is made of the outcomes of the calls. -/
theorem Reached.outcome {outcome : Except DatabaseError (List ResultRow × UInt64)}
    (reached : Reached executor rows count joint) (ended : joint.outcome? = some outcome) :
    match outcome with
    | .ok (list, total) =>
      (executor.query rows).outcome = .ok list ∧ (executor.count count).outcome = .ok total
    | .error e =>
      (executor.query rows).outcome = .error e ∨ (executor.count count).outcome = .error e := by
  unfold outcome? at ended
  split at ended
  · rename_i e isAnswer
    cases ended
    exact Or.inl (reached.rows _ isAnswer).symm
  · rename_i e isAnswer _
    cases ended
    exact Or.inr (reached.count _ isAnswer).symm
  · rename_i list total rowsAnswer countAnswer
    cases ended
    exact ⟨(reached.rows _ rowsAnswer).symm, (reached.count _ countAnswer).symm⟩
  · cases ended

end Joint

/-! ### The order in which a plan is run -/

namespace Progress

/-- A call that has not answered, with that many vain turns ahead of it. -/
def Ahead (reply : Reply α) (inVain : Nat) (progress : Progress α) : Prop :=
  progress.hasAnswered = false ∧ progress.ask reply = asked reply inVain

/-- A call that waits has its vain turns ahead of it. -/
theorem ahead_waiting (reply : Reply α) (inVain : Nat) :
    (Progress.waiting inVain).Ahead reply inVain := ⟨rfl, rfl⟩

/-- A call that has not been made has all of its delay ahead of it. -/
theorem ahead_unmade (reply : Reply α) : Progress.unmade.Ahead reply reply.delay := ⟨rfl, rfl⟩

end Progress

namespace Joint

variable {executor : Executor} {rows count : Prepared} {joint : Joint}

/-- As long as the rows are under way, nothing but a failure of the count ends a query. -/
theorem awaits_rows (open_ : joint.rows.hasAnswered = false)
    (fine : ∀ e, joint.count ≠ .answered (.error e)) : joint.awaits .rows = true := by
  have unended : joint.outcome? = none := by
    obtain ⟨rows, count, calls⟩ := joint
    rcases rows with _ | _ | _ <;> rcases count with _ | _ | (_ | _) <;>
      simp_all [outcome?, Progress.hasAnswered]
  simp [awaits, unended, open_]

/-- As long as the count is under way, nothing but a failure of the rows ends a query. -/
theorem awaits_count (open_ : joint.count.hasAnswered = false)
    (fine : ∀ e, joint.rows ≠ .answered (.error e)) : joint.awaits .count = true := by
  have unended : joint.outcome? = none := by
    obtain ⟨rows, count, calls⟩ := joint
    rcases rows with _ | _ | (_ | _) <;> rcases count with _ | _ | _ <;>
      simp_all [outcome?, Progress.hasAnswered]
  simp [awaits, unended, open_]

variable (executor rows count) in
/-- Turns in some order lead to an outcome, and tell whether the count has been called for by
then. -/
def EndsWith (joint : Joint) (outcome : Except DatabaseError (List ResultRow × UInt64))
    (made : Bool) : Prop :=
  ∃ order last, joint.follow executor rows count order = some last ∧
    last.outcome? = some outcome ∧ last.count.made = made

section
variable {outcome : Except DatabaseError (List ResultRow × UInt64)} {made : Bool}

/-- Where a query has ended no turn is needed. -/
theorem EndsWith.of_ended (ended : joint.outcome? = some outcome)
    (same : joint.count.made = made) : EndsWith executor rows count joint outcome made :=
  ⟨[], joint, rfl, ended, same⟩

/-- A turn that is awaited may be the first one. -/
theorem EndsWith.of_ask {side : Side} (awaited : joint.awaits side = true)
    (ends : EndsWith executor rows count (joint.ask executor rows count side) outcome made) :
    EndsWith executor rows count joint outcome made := by
  obtain ⟨order, last, followed, ended, same⟩ := ends
  exact ⟨side :: order, last, by simp [follow, awaited, followed], ended, same⟩

end

/-- When the rows are there, only the count is asked, and what it answers decides. -/
theorem endsWith_of_rows {list : List ResultRow} {inVain : Nat}
    (there : joint.rows = .answered (.ok list))
    (ahead : joint.count.Ahead (executor.count count) inVain) :
    EndsWith executor rows count joint
      ((executor.count count).outcome >>= fun total => pure (list, total)) true := by
  have kept : (joint.ask executor rows count .count).rows = .answered (.ok list) := there
  refine .of_ask (awaits_count ahead.1 (by simp [there])) ?_
  induction inVain generalizing joint with
  | zero =>
    have answer : (joint.ask executor rows count .count).count =
        .answered (executor.count count).outcome := ahead.2
    refine .of_ended ?_ Progress.made_ask
    rw [outcome?, answer, kept]
    cases (executor.count count).outcome <;> rfl
  | succ inVain ih =>
    have waits : (joint.ask executor rows count .count).count = .waiting inVain := ahead.2
    have next := waits ▸ Progress.ahead_waiting (executor.count count) inVain
    exact .of_ask (awaits_count next.1 (by simp [kept])) (ih kept next kept)

/-- When the count is there, only the rows are asked, and what they answer decides. -/
theorem endsWith_of_count {total : UInt64} {inVain : Nat}
    (there : joint.count = .answered (.ok total))
    (ahead : joint.rows.Ahead (executor.query rows) inVain) :
    EndsWith executor rows count joint
      ((executor.query rows).outcome >>= fun list => pure (list, total)) true := by
  have kept : (joint.ask executor rows count .rows).count = .answered (.ok total) := there
  refine .of_ask (awaits_rows ahead.1 (by simp [there])) ?_
  induction inVain generalizing joint with
  | zero =>
    have answer : (joint.ask executor rows count .rows).rows =
        .answered (executor.query rows).outcome := ahead.2
    refine .of_ended ?_ (by rw [kept]; rfl)
    rw [outcome?, answer, kept]
    cases (executor.query rows).outcome <;> rfl
  | succ inVain ih =>
    have waits : (joint.ask executor rows count .rows).rows = .waiting inVain := ahead.2
    have next := waits ▸ Progress.ahead_waiting (executor.query rows) inVain
    exact .of_ask (awaits_rows next.1 (by simp [kept])) (ih kept next kept)

/-- If the rows have just answered, the query ends with their failure or goes on with the count.
The count has not been called for only if it was not before and the rows have failed. -/
theorem endsWith_of_rows_answer {countInVain : Nat}
    (answer : joint.rows = .answered (executor.query rows).outcome)
    (countAhead : joint.count.Ahead (executor.count count) countInVain) :
    EndsWith executor rows count joint
      (joinTurns (executor.query rows).outcome (executor.count count).outcome 0 countInVain)
      (joint.count.made || !Reply.failsAtOnce ⟨0, (executor.query rows).outcome⟩) := by
  cases outcome : (executor.query rows).outcome with
  | error e =>
    refine .of_ended ?_ (by simp [Reply.failsAtOnce])
    rw [outcome?, answer, outcome]
    rfl
  | ok list =>
    rw [outcome] at answer
    have goesOn : (⟨0, .ok list⟩ : Reply (List ResultRow)).failsAtOnce = false := rfl
    rw [goesOn, Bool.not_false, Bool.or_true]
    exact endsWith_of_rows answer countAhead

/-- If the count has just answered, before the rows, the query ends with its failure or goes on
with the rows. -/
theorem endsWith_of_count_answer {inVain : Nat}
    (answer : joint.count = .answered (executor.count count).outcome)
    (ahead : joint.rows.Ahead (executor.query rows) inVain) :
    EndsWith executor rows count joint
      (joinTurns (executor.query rows).outcome (executor.count count).outcome (inVain + 1) 0)
      true := by
  cases outcome : (executor.count count).outcome with
  | error e =>
    refine .of_ended ?_ (by rw [answer]; rfl)
    obtain ⟨rows, count, calls⟩ := joint
    obtain rfl : count = _ := answer
    rcases rows with _ | _ | _
    · simp only [outcome?, outcome]; rfl
    · simp only [outcome?, outcome]; rfl
    · cases ahead.1
  | ok total =>
    rw [outcome] at answer
    exact endsWith_of_count answer ahead

/-- Both calls asked turn by turn, the rows first, end with the joined outcome. The count
is called for unless the rows fail in the very first of these turns. -/
theorem endsWith_of_turns {inVain countInVain : Nat}
    (ahead : joint.rows.Ahead (executor.query rows) inVain)
    (countAhead : joint.count.Ahead (executor.count count) countInVain) :
    EndsWith executor rows count (joint.ask executor rows count .rows)
      (joinTurns (executor.query rows).outcome (executor.count count).outcome inVain countInVain)
      (joint.count.made || !Reply.failsAtOnce ⟨inVain, (executor.query rows).outcome⟩) := by
  induction inVain generalizing joint countInVain with
  | zero =>
    have answer : (joint.ask executor rows count .rows).rows =
        .answered (executor.query rows).outcome := ahead.2
    exact endsWith_of_rows_answer answer countAhead
  | succ inVain ih =>
    have waits : (joint.ask executor rows count .rows).rows = .waiting inVain := ahead.2
    have toldToWait : Reply.failsAtOnce ⟨inVain + 1, (executor.query rows).outcome⟩ = false := rfl
    rw [toldToWait, Bool.not_false, Bool.or_true]
    refine .of_ask (awaits_count countAhead.1 (by simp [waits])) ?_
    let both := (joint.ask executor rows count .rows).ask executor rows count .count
    have bothRows : both.rows = .waiting inVain := waits
    have rowsAhead : both.rows.Ahead (executor.query rows) inVain :=
      bothRows ▸ Progress.ahead_waiting _ _
    have bothCount : both.count = Progress.asked (executor.count count) countInVain :=
      countAhead.2
    cases countInVain with
    | zero => exact endsWith_of_count_answer bothCount rowsAhead
    | succ countInVain =>
      have nextAhead : both.count.Ahead (executor.count count) countInVain :=
        bothCount ▸ Progress.ahead_waiting _ _
      have calm (e) : both.count ≠ .answered (.error e) := by simp [bothCount, Progress.asked]
      have madeNow : both.count.made = true := Progress.made_ask
      refine .of_ask (awaits_rows rowsAhead.1 calm) ?_
      have ends := ih rowsAhead nextAhead
      rw [madeNow, Bool.true_or] at ends
      exact ends

end Joint

/-- What is true of a run of a query, given what its calls answer. -/
structure Run.AnswersTogether (executor : Executor) (counters : Counters)
    (rows count : Prepared) (run : Run) : Prop where
  /-- There is a result exactly when both calls succeed, and it holds what they gave. -/
  page : ∀ result, run.outcome = .ok result ↔ ∃ list total,
    (executor.query rows).outcome = .ok list ∧ (executor.count count).outcome = .ok total ∧
      result = .page list total
  /-- A failure is that of a call. -/
  failure : ∀ e, run.outcome = .error e →
    (executor.query rows).outcome = .error e ∨ (executor.count count).outcome = .error e
  /-- If the rows alone fail, their failure is the outcome. -/
  rowsAlone : ∀ e total, (executor.query rows).outcome = .error e →
    (executor.count count).outcome = .ok total → run.outcome = .error e
  /-- If the count alone fails, its failure is the outcome. -/
  countAlone : ∀ e list, (executor.query rows).outcome = .ok list →
    (executor.count count).outcome = .error e → run.outcome = .error e
  /-- Each call is made at most once, the rows first. -/
  calls : run.calls = [.query rows] ∨ run.calls = [.query rows, .count count]
  /-- If the rows fail at once, the count is never called for. -/
  atOnce : (executor.query rows).failsAtOnce = true →
    run.calls = [.query rows] ∧
      ∃ e, (executor.query rows).outcome = .error e ∧ run.outcome = .error e
  /-- A success raises the counter of queries, and nothing else raises a counter. -/
  raised : ∀ result, run.outcome = .ok result → run.counters = counters.raise .query
  kept : ∀ e, run.outcome = .error e → run.counters = counters

namespace Joint

variable {executor : Executor} {rows count : Prepared} {counters : Counters}
  {order : List Side} {run : Run}

/-- If the rows fail at once, the first turn brings their failure. -/
theorem outcome?_first_of_failsAtOnce (count : Prepared)
    (atOnce : (executor.query rows).failsAtOnce = true) :
    ∃ e, (executor.query rows).outcome = .error e ∧
      (ask executor rows count {} .rows).outcome? = some (.error e) := by
  unfold Reply.failsAtOnce at atOnce
  split at atOnce
  · rename_i e now failed
    refine ⟨e, failed, ?_⟩
    simp only [outcome?, ask, Progress.ask, now, Progress.asked, failed]
  · cases atOnce

/-- Once a query has ended, nothing is asked any more. -/
theorem follow_of_ended {joint last : Joint}
    {outcome : Except DatabaseError (List ResultRow × UInt64)}
    (ended : joint.outcome? = some outcome)
    (followed : joint.follow executor rows count order = some last) : last = joint := by
  cases order with
  | nil => exact (Option.some.inj followed).symm
  | cons side order =>
    have refused : joint.awaits side = false := by cases side <;> simp [awaits, ended]
    simp [follow, refused] at followed

/-- A run ends in a state that is reached from the first turn on, and is made of the
outcome there. -/
theorem RunsIn.ends (runs : RunsIn executor rows count counters order run) :
    ∃ later last outcome,
      (ask executor rows count {} .rows).follow executor rows count later = some last ∧
      Reached executor rows count last ∧ last.outcome? = some outcome ∧
      run.calls = last.calls ∧
      (run.outcome, run.counters) = match outcome with
        | .ok (list, total) => (.ok (.page list total), counters.raise .query)
        | .error e => (.error e, counters) := by
  obtain ⟨first, last, followed, atEnd⟩ := runs
  cases order with
  | nil => cases first
  | cons side later =>
    cases first
    have fromFirst : (ask executor rows count {} .rows).follow executor rows count later =
        some last := followed
    cases ended : last.outcome? with
    | none => simp [run?, ended] at atEnd
    | some outcome =>
      have same : _ = run :=
        Option.some.inj (by simpa only [run?, ended, Option.map_some] using atEnd)
      refine ⟨later, last, outcome, fromFirst, reached_first.follow fromFirst, ended, ?_, ?_⟩ <;>
        subst same <;> rcases outcome with e | ⟨list, total⟩ <;> rfl

/-- The outcome of a run is made of the outcomes of the calls. -/
theorem RunsIn.parts (runs : RunsIn executor rows count counters order run) :
    (∃ list total, (executor.query rows).outcome = .ok list ∧
      (executor.count count).outcome = .ok total ∧ run.outcome = .ok (.page list total) ∧
      run.counters = counters.raise .query) ∨
    ∃ e, ((executor.query rows).outcome = .error e ∨ (executor.count count).outcome = .error e) ∧
      run.outcome = .error e ∧ run.counters = counters := by
  obtain ⟨_, _, outcome, _, reached, ended, _, made⟩ := runs.ends
  have ofCalls := reached.outcome ended
  rcases outcome with e | ⟨list, total⟩
  · obtain ⟨isFailure, isKept⟩ := Prod.mk.inj made
    exact Or.inr ⟨e, ofCalls, isFailure, isKept⟩
  · obtain ⟨isPage, isRaised⟩ := Prod.mk.inj made
    exact Or.inl ⟨list, total, ofCalls.1, ofCalls.2, isPage, isRaised⟩

/-- The rows are called for once, and the count at most once and after them. -/
theorem RunsIn.calls_eq (runs : RunsIn executor rows count counters order run) :
    run.calls = [.query rows] ∨ run.calls = [.query rows, .count count] := by
  obtain ⟨_, last, _, _, reached, _, calls, _⟩ := runs.ends
  rw [calls, reached.calls]
  cases last.count.made
  · exact Or.inl rfl
  · exact Or.inr rfl

/-- If the rows fail at once, the query ends with the first turn. -/
theorem RunsIn.atOnce (runs : RunsIn executor rows count counters order run)
    (atOnce : (executor.query rows).failsAtOnce = true) : run.calls = [.query rows] ∧
      ∃ e, (executor.query rows).outcome = .error e ∧ run.outcome = .error e := by
  obtain ⟨_, last, outcome, followed, _, ended, calls, made⟩ := runs.ends
  obtain ⟨e, failed, endedFirst⟩ := outcome?_first_of_failsAtOnce count atOnce
  obtain rfl := follow_of_ended endedFirst followed
  obtain rfl : outcome = .error e := Option.some.inj (ended.symm.trans endedFirst)
  exact ⟨calls, e, failed, (Prod.mk.inj made).1⟩

/-- Whatever the order, a run answers for both calls. -/
theorem RunsIn.answersTogether (runs : RunsIn executor rows count counters order run) :
    run.AnswersTogether executor counters rows count where
  page result := by
    rcases runs.parts with ⟨list, total, ofRows, ofCount, isPage, _⟩ | ⟨e, failed, isFailure, _⟩
    · simp only [isPage, ofRows, ofCount, Except.ok.injEq]
      constructor
      · rintro rfl
        exact ⟨list, total, rfl, rfl, rfl⟩
      · rintro ⟨_, _, rfl, rfl, rfl⟩
        rfl
    · rw [isFailure]
      constructor
      · nofun
      · rintro ⟨list, total, ofRows, ofCount, _⟩
        simp [ofRows, ofCount] at failed
  failure e failed := by
    rcases runs.parts with ⟨_, _, _, _, isPage, _⟩ | ⟨other, ofCall, isFailure, _⟩
    · cases isPage.symm.trans failed
    · cases isFailure.symm.trans failed
      exact ofCall
  rowsAlone e total failed ofCount := by
    rcases runs.parts with ⟨_, _, ofRows, _⟩ | ⟨other, ofCall, isFailure, _⟩
    · cases failed.symm.trans ofRows
    · simp only [failed, ofCount, Except.error.injEq, reduceCtorEq, or_false] at ofCall
      exact ofCall ▸ isFailure
  countAlone e list ofRows failed := by
    rcases runs.parts with ⟨_, _, _, ofCount, _⟩ | ⟨other, ofCall, isFailure, _⟩
    · cases failed.symm.trans ofCount
    · simp only [failed, ofRows, Except.error.injEq, reduceCtorEq, false_or] at ofCall
      exact ofCall ▸ isFailure
  calls := runs.calls_eq
  atOnce := runs.atOnce
  raised result succeeded := by
    rcases runs.parts with ⟨_, _, _, _, _, isRaised⟩ | ⟨_, _, isFailure, _⟩
    · exact isRaised
    · cases isFailure.symm.trans succeeded
  kept e failed := by
    rcases runs.parts with ⟨_, _, _, _, isPage, _⟩ | ⟨_, _, _, isKept⟩
    · cases isPage.symm.trans failed
    · exact isKept

/-- What is true from the first turn on is true at the end of every order. -/
theorem reached_of_follow {last : Joint} (first : order.head? = some .rows)
    (followed : follow executor rows count {} order = some last) :
    Reached executor rows count last := by
  cases order with
  | nil => cases first
  | cons side later =>
    cases first
    exact reached_first.follow followed

/-- Running a plan asks in one of the orders. -/
theorem exists_runsIn_run (executor : Executor) (counters : Counters) (domain : String)
    (rows count : Select) : ∃ order,
      RunsIn executor (Statement.select rows).prepare (Statement.select count).prepare counters
        order (Plan.run executor counters ⟨domain, .query rows count⟩) := by
  let page := (Statement.select rows).prepare
  let total := (Statement.select count).prepare
  have fresh : (({} : Joint).rows.Ahead (executor.query page) (executor.query page).delay) :=
    Progress.ahead_unmade _
  obtain ⟨later, last, goesOn, ended, made⟩ := endsWith_of_turns fresh
    (Progress.ahead_unmade (executor.count total))
  let order := Side.rows :: later
  have first : order.head? = some .rows := rfl
  have followed : follow executor page total {} order = some last := goesOn
  have calls : last.calls = if (executor.query page).failsAtOnce then [.query page]
      else [.query page, .count total] := by
    rw [(reached_of_follow first followed).calls, made]
    cases (executor.query page).failsAtOnce <;> rfl
  refine ⟨order, first, last, followed, ?_⟩
  rw [run?, ended, calls]
  show _ = some (Plan.run executor counters ⟨domain, .query rows count⟩)
  simp only [Plan.run, Reply.join, Option.map_some, Option.some.injEq]
  split <;> rename_i joined <;> simp only [page, total] at joined ⊢ <;> rw [joined]

end Joint

/-- A query is answered with a page exactly when both of its calls succeed, and otherwise
with the failure of a call, in whatever order its calls are asked. Every order comes to an
end, and the one in which a plan is run is one of them. -/
theorem Plan.query_answers_in_every_order (executor : Executor) (counters : Counters)
    (domain : String) (rows count : Select) :
    let page := (Statement.select rows).prepare
    let total := (Statement.select count).prepare
    (∃ order, Joint.RunsIn executor page total counters order
      (Plan.run executor counters ⟨domain, .query rows count⟩)) ∧
    (∀ order joint, order.head? = some .rows →
      Joint.follow executor page total {} order = some joint →
        order.length ≤ (executor.query page).delay + (executor.count total).delay + 2 ∧
        ∃ more run, Joint.RunsIn executor page total counters (order ++ more) run) ∧
    ∀ order run, Joint.RunsIn executor page total counters order run →
      run.AnswersTogether executor counters page total := by
  intro page total
  refine ⟨Joint.exists_runsIn_run executor counters domain rows count, ?_, ?_⟩
  · intro order joint first followed
    refine ⟨?_, ?_⟩
    · have turns := Joint.length_order followed
      simp only [Joint.turnsLeft, Progress.turnsLeft] at turns
      omega
    · obtain ⟨more, last, outcome, goesOn, ended⟩ := Joint.exists_end executor page total joint
      have started : (order ++ more).head? = some .rows := by
        cases order with
        | nil => cases first
        | cons side later => exact first
      have whole := (Joint.follow_append followed).trans goesOn
      obtain ⟨run, atEnd⟩ : ∃ run, last.run? counters = some run := by simp [Joint.run?, ended]
      exact ⟨more, run, started, last, whole, atEnd⟩
  · intro order run runs
    exact runs.answersTogether

/-- An executor whose count fails while the rows are still on their way. -/
def lateRows : Executor where
  query _ := { delay := 3, outcome := .ok [] }
  count _ := { delay := 1, outcome := .error ⟨"timeout", "the count took too long"⟩ }
  update _ := { outcome := .ok 0 }

/-- The count of all users fails under the rows, and takes the query with it. -/
theorem lateRows_users_failed :
    let page := (Statement.select (.rowsOf "t_user")).prepare
    let total := (Statement.select (.countOf "t_user" [])).prepare
    let timeout : DatabaseError := ⟨"timeout", "the count took too long"⟩
    let run : Run := ⟨.error timeout, [.query page, .count total], {}⟩
    Joint.RunsIn lateRows page total {} [.rows, .rows, .count, .count] run ∧
      run.AnswersTogether lateRows {} page total := by
  intro page total timeout run
  have runs : Joint.RunsIn lateRows page total {} [.rows, .rows, .count, .count] run :=
    ⟨rfl, _, rfl, rfl⟩
  exact ⟨runs, (Plan.query_answers_in_every_order lateRows {} "user" (.rowsOf "t_user")
    (.countOf "t_user" [])).2.2 _ _ runs⟩

end DomainSql
