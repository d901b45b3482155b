import DomainSql.Value

/-!
# Requests

A request names an operation and a domain and carries filters, whose keys encode
a column and an operator. The operation and the domain may be absent, so that
their absence is reported by the compiler and not by the reader of the document.
-/
namespace DomainSql

/-- A row of an insert or update. -/
abbrev Row := Mapping

/-- Paging and ordering of a query. The sort text holds entries of a column and an
optional direction. -/
structure PageQuery where
  pageNumber : Option UInt32 := none
  pageSize : Option UInt32 := none
  sort : Option String := none
deriving DecidableEq, Repr, Inhabited

/-- A chain of domains, each linked to the next by a join table. The request's own
domain stands at one end of the path, at the far end stands the leaf, which is the
domain that the route filters talk about first of all. -/
structure DomainRoute where
  path : List String
  reverse : Bool := false
  filters : Mapping := []
  lastDomainIdColumn : Option String := none
deriving Inhabited

/-- A request for one statement, or for the two statements of a query. -/
structure Request where
  operation : Option String := none
  domain : Option String := none
  page : Option PageQuery := none
  filters : Option Mapping := none
  data : Option (List Row) := none
  columns : Option (List String) := none
  domainRoute : Option DomainRoute := none
deriving Inhabited

end DomainSql
