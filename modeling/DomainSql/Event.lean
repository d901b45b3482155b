/-!
# Events

What is worth telling an operator while a request is compiled and run, apart from
its result. Events are kept in the order in which they happen, also when the work
they belong to fails in the end.
-/
namespace DomainSql

/-- The importance of an event. -/
inductive Level where
  | debug
  | info
  | warn
deriving DecidableEq, Repr

/-- The name of an importance. -/
def Level.name : Level → String
  | .debug => "DEBUG"
  | .info => "INFO"
  | .warn => "WARN"

/-- Something that happened. -/
inductive Event where
  /-- A statement of a plan has been compiled. -/
  | compiled (operation domain sql : String) (arguments : Nat)
  /-- Another filter on the leaf of a route comes first, so this one has no
  effect. -/
  | routeFilterSuperseded (key applied : String)
  /-- A filter of a route is about none of its domains. -/
  | routeFilterUnmatched (key : String)
  /-- An update has more rows than the one that is applied. -/
  | rowsIgnored (count : Nat)
  /-- A request has failed. -/
  | failed (message : String) (code : Nat) (name : String)
  /-- There is no configuration, so the defaults are used. -/
  | defaultsUsed (path : String)
  /-- A configuration has been read. -/
  | configurationRead (path : String)
  /-- A directory has got its first configuration. -/
  | initialized (directory : String)
deriving DecidableEq, Repr

namespace Event

/-- The importance of an event. -/
def level : Event → Level
  | compiled .. | rowsIgnored _ | configurationRead _ => .debug
  | defaultsUsed _ | initialized _ => .info
  | routeFilterSuperseded .. | routeFilterUnmatched _ | failed .. => .warn

/-- The words for an event. -/
def message : Event → String
  | compiled .. => "compiled statement"
  | routeFilterSuperseded .. => "only the first route filter on the leaf domain is applied"
  | routeFilterUnmatched _ => "domain route filter matches no domain and is ignored"
  | rowsIgnored _ => "only the first row of an update is applied"
  | failed message .. => message
  | defaultsUsed _ => "no configuration file found, using defaults"
  | configurationRead _ => "parsed configuration"
  | initialized _ => "configuration initialized"

end Event

/-- Work that tells events and ends with a result or an error. -/
structure Traced (ε α : Type) where
  events : List Event
  outcome : Except ε α

namespace Traced

/-- Work without events. -/
def lift (outcome : Except ε α) : Traced ε α := ⟨[], outcome⟩

/-- Work that only tells events. -/
def tell (events : List Event) : Traced ε Unit := ⟨events, .ok ()⟩

/-- Work that goes on with a result. The events of the second part follow those of
the first, and there is no second part after an error. -/
def andThen (first : Traced ε α) (next : α → Traced ε β) : Traced ε β :=
  match first.outcome with
  | .error e => ⟨first.events, .error e⟩
  | .ok a => ⟨first.events ++ (next a).events, (next a).outcome⟩

/-- Traced work goes on part by part, each one behind the events of those before it. -/
instance : Monad (Traced ε) where
  pure a := ⟨[], .ok a⟩
  bind := andThen

/-- Work without events takes part as it is. -/
instance : MonadLift (Except ε) (Traced ε) where
  monadLift := lift

/-- The outcome of two parts is the one of their outcomes: events decide nothing. -/
theorem outcome_bind (first : Traced ε α) (next : α → Traced ε β) :
    (first >>= next).outcome = first.outcome >>= fun a => (next a).outcome := by
  rcases first with ⟨events, outcome⟩
  cases outcome <;> rfl

/-- The events of two parts, where the first one succeeds. -/
theorem events_bind_ok {first : Traced ε α} {a : α} (ok : first.outcome = .ok a)
    (next : α → Traced ε β) : (first >>= next).events = first.events ++ (next a).events := by
  show (andThen first next).events = _
  simp [andThen, ok]

/-- Parts may be grouped in any way, and a part that does nothing leaves no trace. -/
instance : LawfulMonad (Traced ε) :=
  LawfulMonad.mk' _
    (fun work => by
      rcases work with ⟨events, outcome⟩
      cases outcome
      · rfl
      · show Traced.mk (events ++ []) _ = _
        simp)
    (fun a next => by
      show Traced.mk ([] ++ (next a).events) (next a).outcome = next a
      simp)
    (fun work next last => by
      rcases work with ⟨events, outcome⟩
      cases outcome with
      | error e => rfl
      | ok a =>
        show andThen (Traced.mk (events ++ (next a).events) (next a).outcome) last =
          Traced.mk (events ++ (andThen (next a) last).events) (andThen (next a) last).outcome
        unfold andThen
        split <;> simp_all)

end Traced

end DomainSql
