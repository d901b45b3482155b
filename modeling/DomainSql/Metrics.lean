/-!
# Counters of handled requests

Three counters tell how requests ended. A counter is registered under its name
before it is gathered, and a name is registered once.
-/
namespace DomainSql

/-- The counters. -/
inductive Counter where
  | query
  | mutation
  | error
deriving DecidableEq, Repr

/-- The name that a counter is registered under. -/
def Counter.name : Counter → String
  | .query => "doytoql_query_total"
  | .mutation => "doytoql_mutation_total"
  | .error => "doytoql_error_total"

/-- What a counter counts. -/
def Counter.help : Counter → String
  | .query => "Total successful queries."
  | .mutation => "Total successful inserts, updates and deletes."
  | .error => "Total requests that failed to compile or execute."

/-- The values of the counters. A counter of 64 bits starts again after its
largest value. -/
structure Counters where
  query : UInt64 := 0
  mutation : UInt64 := 0
  error : UInt64 := 0
deriving DecidableEq, Repr, Inhabited

/-- The value of a counter. -/
def Counters.value (counters : Counters) : Counter → UInt64
  | .query => counters.query
  | .mutation => counters.mutation
  | .error => counters.error

/-- Raise a counter by one. -/
def Counters.raise (counters : Counters) : Counter → Counters
  | .query => { counters with query := counters.query + 1 }
  | .mutation => { counters with mutation := counters.mutation + 1 }
  | .error => { counters with error := counters.error + 1 }

/-- The reason why counters are not registered. -/
inductive MetricsError where
  | duplicate
deriving DecidableEq, Repr

/-- The words for a reason. -/
def MetricsError.message : MetricsError → String
  | .duplicate =>
    "unable to register metrics: Duplicate metrics collector registration attempted"

/-- The registered counters. -/
structure Registry where
  counters : List Counter := []
deriving DecidableEq, Repr, Inhabited

namespace Registry

/-- Register a counter whose name is not registered yet. -/
def register (registry : Registry) (counter : Counter) : Except MetricsError Registry :=
  if registry.counters.any (·.name = counter.name) then .error .duplicate
  else .ok ⟨registry.counters ++ [counter]⟩

/-- Register the three counters; the first one that is registered already ends the
registration. -/
def registerAll (registry : Registry) : Except MetricsError Registry :=
  [Counter.query, .mutation, .error].foldlM register registry

/-- The name, the description and the value of every registered counter, in the
order of the names. -/
def gather (registry : Registry) (counters : Counters) : List (String × String × UInt64) :=
  (registry.counters.mergeSort fun a b => a.name ≤ b.name).map fun counter =>
    (counter.name, counter.help, counters.value counter)

end Registry

end DomainSql
