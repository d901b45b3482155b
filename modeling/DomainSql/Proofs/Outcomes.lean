import DomainSql.Event
import Mathlib.Data.List.Forall2

/-!
# Work that succeeds

Compilation goes from check to check and stops at the first that fails. Read
backwards, work that succeeded passed every check on its way: its parts succeeded
one by one, and a list was gone through entry by entry. Events have no part in
this, so only the outcome of traced work is looked at.
-/
namespace DomainSql

variable {ε α β : Type}

/-- Two parts succeed when the first one does and the second one does on its
result. -/
theorem bind_eq_ok {first : Except ε α} {next : α → Except ε β} {result : β} :
    (first >>= next) = .ok result ↔ ∃ a, first = .ok a ∧ next a = .ok result := by
  cases first <;> simp [bind, Except.bind]

/-- Behind a success the second part goes on with its result. -/
theorem ok_bind (a : α) (next : α → Except ε β) : (Except.ok a >>= next) = next a := rfl

/-- A result is a success with that result. -/
theorem pure_eq_ok {a result : α} : (pure a : Except ε α) = .ok result ↔ a = result := by
  simp [pure, Except.pure]

/-- A result that is put into a term comes from the work in front of it. -/
theorem bind_pure_eq_ok {first : Except ε α} {build : α → β} {result : β} :
    (first >>= fun a => pure (build a)) = .ok result ↔ ∃ a, first = .ok a ∧ build a = result := by
  simp only [bind_eq_ok, pure_eq_ok]

/-- Work that is only put into a term fails for its own reasons. -/
theorem bind_pure_eq_error {first : Except ε α} {build : α → β} {reason : ε} :
    (first >>= fun a => pure (build a)) = .error reason ↔ first = .error reason := by
  cases first <;> simp [bind, Except.bind, pure, Except.pure]

/-- A changed result comes from the result of the same work. -/
theorem map_eq_ok {first : Except ε α} {change : α → β} {result : β} :
    first.map change = .ok result ↔ ∃ a, first = .ok a ∧ change a = result := by
  cases first <;> simp [Except.map]

/-- Another wording of errors leaves results as they are. -/
theorem mapError_eq_ok {δ : Type} {outcome : Except ε α} {change : ε → δ} {result : α} :
    outcome.mapError change = .ok result ↔ outcome = .ok result := by
  cases outcome <;> simp [Except.mapError]

/-- A list succeeds entry by entry, and gives the results in the order of the
entries. -/
theorem mapM_eq_ok {work : α → Except ε β} {entries : List α} {results : List β} :
    entries.mapM work = .ok results ↔
      List.Forall₂ (fun entry result => work entry = .ok result) entries results := by
  induction entries generalizing results with
  | nil => cases results <;> simp [pure, Except.pure]
  | cons entry rest ih =>
    simp only [List.mapM_cons, bind_eq_ok, ih, pure_eq_ok]
    constructor
    · rintro ⟨result, done, others, remaining, rfl⟩
      exact List.Forall₂.cons done remaining
    · intro each
      obtain ⟨result, others, done, remaining, rfl⟩ := List.forall₂_cons_left_iff.mp each
      exact ⟨result, done, others, remaining, rfl⟩

/-- A list fails for the reason of one of its entries. -/
theorem exists_entry_of_mapM_eq_error {work : α → Except ε β} {entries : List α} {reason : ε}
    (failed : entries.mapM work = .error reason) :
    ∃ entry ∈ entries, work entry = .error reason := by
  induction entries with
  | nil => cases failed
  | cons entry rest ih =>
    rw [List.mapM_cons] at failed
    cases done : work entry with
    | error e =>
      rw [done] at failed
      cases failed
      exact ⟨entry, List.mem_cons_self, done⟩
    | ok result =>
      rw [done, ok_bind, bind_pure_eq_error] at failed
      obtain ⟨other, listed, failedThere⟩ := ih failed
      exact ⟨other, List.mem_cons_of_mem _ listed, failedThere⟩

/-- A list of choices is made entry by entry. -/
theorem mapM_eq_some {choice : α → Option β} {entries : List α} {results : List β} :
    entries.mapM choice = some results ↔
      List.Forall₂ (fun entry result => choice entry = some result) entries results := by
  induction entries generalizing results with
  | nil => cases results <;> simp
  | cons entry rest ih =>
    simp only [List.mapM_cons, Option.bind_eq_bind, Option.bind_eq_some_iff, ih, Option.pure_def,
      Option.some.injEq]
    constructor
    · rintro ⟨result, done, others, remaining, rfl⟩
      exact List.Forall₂.cons done remaining
    · intro each
      obtain ⟨result, others, done, remaining, rfl⟩ := List.forall₂_cons_left_iff.mp each
      exact ⟨result, done, others, remaining, rfl⟩

/-- There is a choice for a list when there is one for each entry. -/
theorem exists_mapM_eq_some {choice : α → Option β} {entries : List α} :
    (∃ results, entries.mapM choice = some results) ↔
      ∀ entry ∈ entries, ∃ result, choice entry = some result := by
  induction entries with
  | nil => simp
  | cons entry rest ih =>
    rw [List.forall_mem_cons, ← ih]
    simp only [List.mapM_cons, Option.bind_eq_bind, Option.bind_eq_some_iff, Option.pure_def,
      Option.some.injEq]
    constructor
    · rintro ⟨_, result, done, others, remaining, _⟩
      exact ⟨⟨result, done⟩, others, remaining⟩
    · rintro ⟨⟨result, done⟩, others, remaining⟩
      exact ⟨_, result, done, others, remaining, rfl⟩

/-- Every result belongs to an entry. -/
theorem exists_entry_of_mem {related : α → β → Prop} {entries : List α} {results : List β}
    (each : List.Forall₂ related entries results) {result : β} (inside : result ∈ results) :
    ∃ entry ∈ entries, related entry result := by
  induction each with
  | nil => exact absurd inside List.not_mem_nil
  | cons first _ ih =>
    rcases List.mem_cons.mp inside with rfl | inRest
    · exact ⟨_, List.mem_cons_self, first⟩
    · obtain ⟨entry, listed, found⟩ := ih inRest
      exact ⟨entry, List.mem_cons_of_mem _ listed, found⟩

/-- Every entry has its result in its own place. -/
theorem exists_result_of_getElem? {related : α → β → Prop} {entries : List α} {results : List β}
    (each : List.Forall₂ related entries results) {index : Nat} {entry : α}
    (listed : entries[index]? = some entry) :
    ∃ result, results[index]? = some result ∧ related entry result := by
  induction each generalizing index with
  | nil => cases listed
  | cons first _ ih =>
    cases index with
    | zero =>
      cases listed
      exact ⟨_, rfl, first⟩
    | succ index => exact ih listed

/-- A property that results share with their entries is one of all results when it is one
of all entries. -/
theorem forall_result_iff {ofEntry : α → Prop} {ofResult : β → Prop} {entries : List α}
    {results : List β}
    (each : List.Forall₂ (fun entry result => ofResult result ↔ ofEntry entry) entries results) :
    (∀ result ∈ results, ofResult result) ↔ ∀ entry ∈ entries, ofEntry entry := by
  induction each with
  | nil => simp
  | cons first _ ih => rw [List.forall_mem_cons, List.forall_mem_cons, first, ih]

/-- It is one of some result when it is one of some entry. -/
theorem exists_result_iff {ofEntry : α → Prop} {ofResult : β → Prop} {entries : List α}
    {results : List β}
    (each : List.Forall₂ (fun entry result => ofResult result ↔ ofEntry entry) entries results) :
    (∃ result ∈ results, ofResult result) ↔ ∃ entry ∈ entries, ofEntry entry := by
  induction each with
  | nil => simp
  | cons first _ ih => rw [List.exists_mem_cons_iff, List.exists_mem_cons_iff, first, ih]

/-- What is collected from the results is collected from the entries, if every result gives
what its entry does. -/
theorem flatMap_result_eq {γ : Type} {ofEntry : α → List γ} {ofResult : β → List γ}
    {entries : List α} {results : List β}
    (each : List.Forall₂ (fun entry result => ofResult result = ofEntry entry) entries results) :
    results.flatMap ofResult = entries.flatMap ofEntry := by
  induction each with
  | nil => rfl
  | cons first _ ih => rw [List.flatMap_cons, List.flatMap_cons, first, ih]

/-- A list of checks passes when every one of them does. -/
theorem forM_eq_ok {check : α → Except ε Unit} {entries : List α} {passed : Unit} :
    entries.forM check = .ok passed ↔ ∀ entry ∈ entries, check entry = .ok () := by
  rw [List.forM_eq_forM]
  induction entries with
  | nil => simp [pure, Except.pure]
  | cons entry rest ih =>
    simp only [List.forM_cons, bind_eq_ok, ih, List.forall_mem_cons]
    constructor
    · rintro ⟨_, passed, others⟩
      exact ⟨passed, others⟩
    · rintro ⟨passed, others⟩
      exact ⟨(), passed, others⟩

/-- Work that gives a result. -/
def Succeeds (work : Except ε α) : Prop := ∃ result, work = .ok result

/-- A result is a success. -/
@[simp]
theorem succeeds_ok (result : α) : Succeeds (.ok result : Except ε α) := ⟨result, rfl⟩

/-- So is one that is returned. -/
@[simp]
theorem succeeds_pure (result : α) : Succeeds (pure result : Except ε α) := ⟨result, rfl⟩

/-- A failure is no success. -/
@[simp]
theorem not_succeeds_error (reason : ε) : ¬ Succeeds (.error reason : Except ε α) := by
  rintro ⟨_, impossible⟩
  cases impossible

/-- Whether work gives a result can be found out by doing it. -/
theorem succeeds_of_isOk {work : Except ε α} (done : work.isOk = true) : Succeeds work := by
  cases work with
  | error reason => cases done
  | ok result => exact succeeds_ok result

/-- Two parts give a result when the first one does, and the second one does on it. -/
theorem succeeds_bind {first : Except ε α} {next : α → Except ε β} :
    Succeeds (first >>= next) ↔ ∃ a, first = .ok a ∧ Succeeds (next a) := by
  unfold Succeeds
  simp only [bind_eq_ok]
  constructor
  · rintro ⟨result, a, done, remaining⟩
    exact ⟨a, done, result, remaining⟩
  · rintro ⟨a, done, result, remaining⟩
    exact ⟨result, a, done, remaining⟩

/-- If it makes no difference to the second part what the first one gives, then both
have to give a result. -/
theorem succeeds_bind_and {first : Except ε α} {next : α → Except ε β} {rest : Prop}
    (indifferent : ∀ a, first = .ok a → (Succeeds (next a) ↔ rest)) :
    Succeeds (first >>= next) ↔ Succeeds first ∧ rest := by
  rw [succeeds_bind]
  constructor
  · rintro ⟨a, done, remaining⟩
    exact ⟨⟨a, done⟩, (indifferent a done).mp remaining⟩
  · rintro ⟨⟨a, done⟩, remaining⟩
    exact ⟨a, done, (indifferent a done).mpr remaining⟩

/-- A result may be put into a term without further conditions. -/
theorem succeeds_bind_pure {first : Except ε α} {build : α → β} :
    Succeeds (first >>= fun a => pure (build a)) ↔ Succeeds first := by
  rw [succeeds_bind_and fun _ _ => iff_true_intro (succeeds_pure _), and_true]

/-- A list gives results when each of its entries does. -/
theorem succeeds_mapM {work : α → Except ε β} {entries : List α} :
    Succeeds (entries.mapM work) ↔ ∀ entry ∈ entries, Succeeds (work entry) := by
  induction entries with
  | nil => simp
  | cons entry rest ih =>
    rw [List.mapM_cons, succeeds_bind_and fun _ _ => succeeds_bind_pure, ih,
      List.forall_mem_cons]

/-- A list of checks is passed when each of them is. -/
theorem succeeds_forM {check : α → Except ε Unit} {entries : List α} :
    Succeeds (entries.forM check) ↔ ∀ entry ∈ entries, Succeeds (check entry) := by
  constructor
  · rintro ⟨_, passed⟩ entry listed
    exact ⟨(), forM_eq_ok.mp passed entry listed⟩
  · intro each
    exact ⟨(), forM_eq_ok.mpr fun entry listed => (each entry listed).choose_spec⟩

namespace Traced

/-- Untraced work has its own outcome. -/
@[simp]
theorem outcome_lift (outcome : Except ε α) : (lift outcome).outcome = outcome := rfl

/-- A check among traced work has its own outcome too. -/
@[simp]
theorem outcome_liftM (outcome : Except ε α) :
    (liftM outcome : Traced ε α).outcome = outcome := rfl

/-- Telling events succeeds. -/
@[simp]
theorem outcome_tell (events : List Event) : (tell (ε := ε) events).outcome = .ok () := rfl

/-- A result is a success. -/
@[simp]
theorem outcome_pure (a : α) : (pure a : Traced ε α).outcome = .ok a := rfl

/-- Traced work succeeds part by part. -/
theorem outcome_bind_eq_ok {first : Traced ε α} {next : α → Traced ε β} {result : β} :
    (first >>= next).outcome = .ok result ↔
      ∃ a, first.outcome = .ok a ∧ (next a).outcome = .ok result := by
  rw [outcome_bind, bind_eq_ok]

/-- Both parts of traced work have to succeed, if it makes no difference to the second
one what the first one gives. -/
theorem succeeds_bind_and {first : Traced ε α} {next : α → Traced ε β} {rest : Prop}
    (indifferent : ∀ a, first.outcome = .ok a → (Succeeds (next a).outcome ↔ rest)) :
    Succeeds (first >>= next).outcome ↔ Succeeds first.outcome ∧ rest := by
  rw [outcome_bind]
  exact DomainSql.succeeds_bind_and indifferent

/-- A result of traced work may be put into a term without further conditions. -/
theorem succeeds_bind_pure {first : Traced ε α} {build : α → β} :
    Succeeds (first >>= fun a => pure (build a)).outcome ↔ Succeeds first.outcome := by
  rw [outcome_bind]
  exact DomainSql.succeeds_bind_pure

end Traced

end DomainSql
