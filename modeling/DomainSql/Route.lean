import DomainSql.Event
import DomainSql.Filter
import DomainSql.Request

/-!
# Domain routes

A route relates the rows of a domain to rows of another one through a chain of
join tables. The chain is walked from the leaf, the far end, to the root, the end
where the request's own domain stands. Each link of the chain joins a near domain
to the far domain that follows it on the walk, and becomes one sub-select: it
gives the far ids of the join table rows whose near id is among those found so
far.

A domain between the two ends may carry a query of its own under the key that is
its name followed by the suffix of queries; its ids are intersected with those
found so far. At the leaf one filter applies: the first one whose key starts with
the name of the leaf and is not such a query of a domain in between.
-/
namespace DomainSql

open Sql

/-- A key that is a domain's name and this suffix holds a query on the domain. -/
def querySuffix : String := "Query"

/-- The key of the query on a domain. -/
def queryKey (domain : String) : String := domain ++ querySuffix

/-- A step of a walk from one domain to the next through their join table. -/
structure Link where
  near : String
  far : String
  table : TableName
deriving DecidableEq, Repr

namespace DomainRoute

/-- The links of a route in the order of its walk. A join table is named by its
two domains in the order of the path, whatever the direction of the walk. -/
def links (naming : Naming) (route : DomainRoute) : List Link :=
  let pairs := route.path.zip route.path.tail
  if route.reverse then
    pairs.map fun (left, right) => ⟨left, right, naming.joinTableName left right⟩
  else
    (pairs.map fun (left, right) => ⟨right, left, naming.joinTableName left right⟩).reverse

/-- The names that a route brings in are plain. -/
def checkNames (route : DomainRoute) : Except CompileError Unit := do
  route.path.forM fun domain => checkIdentifier domain domain
  match route.lastDomainIdColumn with
  | none => .ok ()
  | some column => checkIdentifier column column

/-- A key that starts with the name of a domain. -/
def startsWith (key domain : String) : Bool := domain.toList.isPrefixOf key.toList

/-- A key that is the query on one of the domains in between. -/
def isInteriorQuery (interior : List String) (key : String) : Bool :=
  interior.any fun domain => key = queryKey domain

/-- The filters that are about the leaf. -/
def leafFilters (route : DomainRoute) (leaf : String) (interior : List String) : Mapping :=
  route.filters.filter fun entry =>
    startsWith entry.1 leaf && !isInteriorQuery interior entry.1

/-- The filters that are about no domain of the walk. -/
def unmatchedKeys (route : DomainRoute) (leaf : String) (interior : List String) :
    List String :=
  (Mapping.keys route.filters).filter fun key =>
    !startsWith key leaf && !isInteriorQuery interior key

/-- The condition of the filter that applies at the leaf. A mapping is a query on
the leaf's own table, whose ids the join table must hold; any other value is a
filter on the join table itself. -/
def leafCondition (naming : Naming) (route : DomainRoute) (leaf key : String) :
    Value → Except CompileError Condition
  | .mapping query => do
    let idColumn := route.lastDomainIdColumn.getD naming.idColumn
    return .inSelects (naming.joinIdColumn leaf)
      [.select idColumn (naming.tableName leaf) (← compileFilters naming query)]
  | value => compileFilter naming key value

/-- The conditions at the leaf. The query on the leaf and other filters on it do
not go together. -/
def leafConditions (naming : Naming) (route : DomainRoute) (leaf : String)
    (interior : List String) : Traced CompileError (List Condition) :=
  match route.leafFilters leaf interior with
  | [] => pure []
  | (key, value) :: others => do
    let isQuery (key : String) : Bool := key = queryKey leaf
    match others.find? fun entry => isQuery entry.1 != isQuery key with
    | some (second, _) => Traced.lift (.error (.ambiguousRouteFilter leaf key second))
    | none => do
      Traced.tell (others.map fun entry => .routeFilterSuperseded entry.1 key)
      let condition ← Traced.lift (leafCondition naming route leaf key value)
      return [condition]

/-- The query on a domain in between, if the route has one. -/
def interiorQuery (naming : Naming) (route : DomainRoute) (domain : String) :
    Except CompileError (List SubSelect) :=
  match Mapping.value? route.filters (queryKey domain) with
  | none => .ok []
  | some (.mapping query) => do
    return [.select naming.idColumn (naming.tableName domain) (← compileFilters naming query)]
  | some _ => .error (.unexpectedValue (queryKey domain) .object)

/-- The sub-select of a link, around the one of the link before it. -/
def followLink (naming : Naming) (route : DomainRoute) (found : SubSelect) (link : Link) :
    Except CompileError SubSelect := do
  let query ← route.interiorQuery naming link.near
  return .select (naming.joinIdColumn link.far) link.table
    [.inSelects (naming.joinIdColumn link.near) (query ++ [found])]

/-- The condition that a route puts on the rows of the request's domain. -/
def compile (naming : Naming) (route : DomainRoute) : Traced CompileError Condition :=
  match route.links naming with
  | [] => Traced.lift (.error .routeTooShort)
  | first :: others => do
    Traced.lift route.checkNames
    let leaf := first.near
    let interior := others.map Link.near
    let conditions ← route.leafConditions naming leaf interior
    let innermost := SubSelect.select (naming.joinIdColumn first.far) first.table conditions
    let outermost ← Traced.lift (others.foldlM (route.followLink naming) innermost)
    Traced.tell ((route.unmatchedKeys leaf interior).map .routeFilterUnmatched)
    return .inSelects naming.idColumn [outermost]

end DomainRoute

/-- The conditions of a request: those of its route, and behind them those of its
filters. -/
def compileWhere (naming : Naming) (filters : Option Mapping) (route : Option DomainRoute) :
    Traced CompileError (List Condition) := do
  let routed ← route.toList.mapM (DomainRoute.compile naming)
  let filtered ← Traced.lift (compileFilters naming (filters.getD []))
  return routed ++ filtered

end DomainSql
