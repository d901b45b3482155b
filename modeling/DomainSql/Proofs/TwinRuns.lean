import DomainSql.Proofs.Outcomes

/-!
# Two runs side by side

Work on two inputs that differ in some details goes the same way as long as no check
looks at those details. How close two runs stay is told by their outcomes: results
that are related where both succeed, and, if the comparison is strict, success of
both or failure of both for the same reason.

Runs stay close part by part, so a comparison of two long runs comes down to one of
their single steps.
-/
namespace DomainSql

variable {ε α β γ δ : Type} {strict : Prop}

/-- The outcomes of two runs that stay close. Where both succeed their results are
related. A strict comparison also asks that none succeeds alone, and that both fail
for the same reason. -/
def Twins (strict : Prop) (related : α → β → Prop) : Except ε α → Except ε β → Prop
  | .ok left, .ok right => related left right
  | .error left, .error right => strict → left = right
  | .ok _, .error _ | .error _, .ok _ => ¬ strict

namespace Twins

variable {related : α → β → Prop} {next : γ → δ → Prop}

/-- A run stays close to itself. -/
theorem same {run : Except ε α} : Twins strict Eq run run := by
  cases run with
  | ok result => exact rfl
  | error reason => exact fun _ => rfl

/-- What is related in one sense may be related in a weaker one. -/
theorem imp {weaker : α → β → Prop} {left : Except ε α} {right : Except ε β}
    (twins : Twins strict related left right) (weaken : ∀ a b, related a b → weaker a b) :
    Twins strict weaker left right := by
  cases left with
  | ok a =>
    cases right with
    | ok b => exact weaken a b twins
    | error reason => exact twins
  | error reason => cases right <;> exact twins

/-- Runs that stay close go on together: after related results the rest has to stay
close, and after a failure there is no rest. -/
theorem bind {left : Except ε α} {right : Except ε β} {leftNext : α → Except ε γ}
    {rightNext : β → Except ε δ} (first : Twins strict related left right)
    (rest : ∀ a b, related a b → Twins strict next (leftNext a) (rightNext b)) :
    Twins strict next (left >>= leftNext) (right >>= rightNext) := by
  cases left with
  | ok a =>
    cases right with
    | ok b => exact rest a b first
    | error reason =>
      have loose : ¬ strict := first
      show Twins strict next (leftNext a) (.error reason)
      cases leftNext a with
      | ok result => exact loose
      | error other => exact fun isStrict => absurd isStrict loose
  | error reason =>
    cases right with
    | ok b =>
      have loose : ¬ strict := first
      show Twins strict next (.error reason) (rightNext b)
      cases rightNext b with
      | ok result => exact loose
      | error other => exact fun isStrict => absurd isStrict loose
    | error other => exact first

/-- Traced runs go on together in the same way, whatever events they tell. -/
theorem bind_outcome {left : Traced ε α} {right : Traced ε β} {leftNext : α → Traced ε γ}
    {rightNext : β → Traced ε δ} (first : Twins strict related left.outcome right.outcome)
    (rest : ∀ a b, related a b →
      Twins strict next (leftNext a).outcome (rightNext b).outcome) :
    Twins strict next (left >>= leftNext).outcome (right >>= rightNext).outcome := by
  rw [Traced.outcome_bind, Traced.outcome_bind]
  exact first.bind rest

/-- Lists that are gone through entry by entry stay close when each two entries
do. -/
theorem mapM {alike : α → β → Prop} {leftWork : α → Except ε γ} {rightWork : β → Except ε δ}
    {left : List α} {right : List β} (entries : List.Forall₂ alike left right)
    (each : ∀ a b, alike a b → Twins strict next (leftWork a) (rightWork b)) :
    Twins strict (List.Forall₂ next) (left.mapM leftWork) (right.mapM rightWork) := by
  induction entries with
  | nil => exact List.Forall₂.nil
  | cons first _ ih =>
    simp only [List.mapM_cons]
    refine (each _ _ first).bind ?_
    intro a b same
    refine ih.bind ?_
    intro results others remaining
    exact List.Forall₂.cons same remaining

/-- Steps over the same entries keep two runs close when each step does. -/
theorem foldlM {leftStep : α → γ → Except ε α} {rightStep : β → γ → Except ε β}
    (steps : ∀ entry a b, related a b →
      Twins strict related (leftStep a entry) (rightStep b entry))
    (entries : List γ) {a : α} {b : β} (start : related a b) :
    Twins strict related (entries.foldlM leftStep a) (entries.foldlM rightStep b) := by
  induction entries generalizing a b with
  | nil => exact start
  | cons entry rest ih =>
    simp only [List.foldlM_cons]
    exact (steps entry a b start).bind fun _ _ same => ih same

end Twins

end DomainSql
