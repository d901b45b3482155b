import DomainSql.Plan
import DomainSql.Proofs.RouteWalk
import DomainSql.Proofs.SortText

/-!
# Well-formed requests

What a request has to look like, told field by field and without compiling it. An
operation reads some fields of a request and leaves the others unread, so what is
asked of a request depends on its operation.

Names are plain, a filter has a value of the kind that its operator takes, and rows
hold scalars. A route has at least two domains. Of the filters on its leaf only the
first one has to be well-formed, since the others have no effect, and of the rows of
an update only the first one does.
-/
namespace DomainSql

open Sql

/-- The values that an operator takes. A search needs a text, which null has none
of, and a null test takes any value. -/
def Operator.Takes : Operator → Value → Prop
  | .isIn, value | .notIn, value =>
    ∃ scalars : List Scalar, scalars ≠ [] ∧ value = .array (scalars.map .scalar)
  | .contain, value | .start, value | .end_, value | .notLike, value =>
    ∃ scalar, scalar ≠ .null ∧ value = .scalar scalar
  | .null, _ | .notNull, _ => True
  | .eq, value | .ne, value | .not, value | .gt, value | .ge, value | .lt, value
  | .le, value => ∃ scalar, value = .scalar scalar

/-- An entry that is a single condition: its field is plain, and its operator takes
its value. -/
def WellFormedCondition (entry : String × Value) : Prop :=
  isIdentifier (Operator.resolve entry.1).1 = true ∧
    (Operator.resolve entry.1).2.Takes entry.2

/-- An entry of a filter mapping: under a key with the suffix of alternatives a
mapping of single conditions, at least one, and a single condition under any other
key. -/
def WellFormedFilter (entry : String × Value) : Prop :=
  if alternativesSuffix.toList <:+ entry.1.toList then
    ∃ alternatives, alternatives ≠ [] ∧ entry.2 = .mapping alternatives ∧
      ∀ alternative ∈ alternatives, WellFormedCondition alternative
  else WellFormedCondition entry

/-- Every entry of a filter mapping is well-formed. -/
def WellFormedFilters (filters : Mapping) : Prop := ∀ entry ∈ filters, WellFormedFilter entry

/-- The filter that applies at the leaf of a route: a mapping of filters on the
leaf's own table, or a filter on the join table. -/
def WellFormedLeafFilter : String × Value → Prop
  | (_, .mapping query) => WellFormedFilters query
  | entry => WellFormedFilter entry

/-- A route whose names are plain and whose filters can be applied. -/
structure DomainRoute.WellFormed (route : DomainRoute) : Prop where
  /-- There are two ends. -/
  long : 2 ≤ route.path.length
  /-- The domains are plain. -/
  path : ∀ domain ∈ route.path, isIdentifier domain = true
  /-- The id column of the leaf, if it is named, is plain. -/
  lastDomainIdColumn : ∀ column ∈ route.lastDomainIdColumn, isIdentifier column = true
  /-- The query on the leaf and other filters on it do not go together. -/
  agree : ∀ leaf ∈ route.walk.head?, ∀ entry ∈ route.leafFilters leaf route.interior,
    ∀ other ∈ route.leafFilters leaf route.interior,
      (other.1 = queryKey leaf ↔ entry.1 = queryKey leaf)
  /-- The first filter on the leaf is well-formed. -/
  applied : ∀ leaf ∈ route.walk.head?,
    ∀ entry ∈ (route.leafFilters leaf route.interior).head?, WellFormedLeafFilter entry
  /-- A query on a domain in between is a mapping of filters. -/
  queries : ∀ domain ∈ route.interior,
    ∀ value ∈ Mapping.value? route.filters (queryKey domain),
      ∃ query, value = .mapping query ∧ WellFormedFilters query

/-- The conditions of a request: its route and its filters, if it has them. -/
structure Request.WellFormedConditions (request : Request) : Prop where
  route : ∀ route ∈ request.domainRoute, route.WellFormed
  filters : ∀ filters ∈ request.filters, WellFormedFilters filters

/-- A page has a size, which may be the default one, and a sort text that is blank or
asks for an order in each of its parts. -/
structure PageQuery.WellFormed (paging : Paging) (page : PageQuery) : Prop where
  sort : ∀ text ∈ page.sort, Text.Blank text.toList ∨ SortText (Text.trim text.toList)
  size : page.pageSize.getD paging.defaultPageSize ≠ 0

/-- What a query asks for is plain, and so are its conditions and its page. -/
structure Request.WellFormedQuery (paging : Paging) (request : Request) : Prop where
  columns : ∀ columns ∈ request.columns, ∀ column ∈ columns, isIdentifier column = true
  conditions : request.WellFormedConditions
  page : ∀ page ∈ request.page, page.WellFormed paging

/-- The first row of an update assigns scalars to plain fields. What other rows, page
and columns hold does not matter. -/
structure Request.WellFormedUpdate (request : Request) : Prop where
  data : ∃ first others, request.data = some (first :: others) ∧ first ≠ [] ∧
    ∀ field ∈ first, isIdentifier field.1 = true ∧ ∃ scalar, field.2 = .scalar scalar
  conditions : request.WellFormedConditions

/-- The rows of an insert give scalars to the same plain fields, at least one. What
filters, route, page and columns hold does not matter. -/
def Request.WellFormedInsert (request : Request) : Prop :=
  ∃ first others, request.data = some (first :: others) ∧ first ≠ [] ∧
    (∀ key ∈ Mapping.keys first, isIdentifier key = true) ∧
    ∀ row ∈ first :: others, (∀ key, key ∈ Mapping.keys row ↔ key ∈ Mapping.keys first) ∧
      ∀ field ∈ row, ∃ scalar, field.2 = .scalar scalar

/-- What an operation asks of a request. -/
def Request.WellFormedFor (paging : Paging) (request : Request) : Operation → Prop
  | .query => request.WellFormedQuery paging
  | .insert => request.WellFormedInsert
  | .update => request.WellFormedUpdate
  | .delete => request.WellFormedConditions

/-- A request names its operation and a plain domain, and has what the operation asks
for. -/
def Request.WellFormed (paging : Paging) (request : Request) : Prop :=
  ∃ operation, request.operation = some operation.name ∧
    (∃ domain, request.domain = some domain ∧ isIdentifier domain = true) ∧
    request.WellFormedFor paging operation

/-- Every row of a request holds every key once, as in every request that has been read. -/
def Request.UniqueKeys (request : Request) : Prop :=
  ∀ rows ∈ request.data, ∀ row ∈ rows, Mapping.Unique row

end DomainSql
