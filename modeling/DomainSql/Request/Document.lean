import DomainSql.Request
import DomainSql.Json.Record
import DomainSql.Json.Writer

/-!
# Requests as documents

A document is read field by field into a request, and a request is written back
as a document. An absent field is left out of the document, except the operation
and the domain, which are written as null, and except the fields of a route that
have a value when they are left out.
-/
namespace DomainSql

open Json

/-- Paging and ordering as a record. -/
def PageQuery.record : Record PageQuery where
  name := "PageQuery"
  draft := {}
  fields := [
    .optional "pageNumber" (readOptional readWord32) fun v p => { p with pageNumber := v },
    .optional "pageSize" (readOptional readWord32) fun v p => { p with pageSize := v },
    .optional "sort" (readOptional readText) fun v p => { p with sort := v }]

/-- A route as a record; the path has to be there. -/
def DomainRoute.record : Record DomainRoute where
  name := "DomainRoute"
  draft := { path := [] }
  fields := [
    .needed "path" (readList readText) fun v r => { r with path := v },
    .optional "reverse" readBool fun v r => { r with reverse := v },
    .optional "filters" readMapping fun v r => { r with filters := v },
    .optional "lastDomainIdColumn" (readOptional readText) fun v r =>
      { r with lastDomainIdColumn := v }]

/-- A request as a record. -/
def Request.record : Record Request where
  name := "QueryRequest"
  draft := {}
  fields := [
    .optional "operation" (readOptional readText) fun v r => { r with operation := v },
    .optional "domain" (readOptional readText) fun v r => { r with domain := v },
    .optional "page" (readOptional (readRecord PageQuery.record)) fun v r =>
      { r with page := v },
    .optional "filters" (readOptional readMapping) fun v r => { r with filters := v },
    .optional "data" (readOptional (readList readMapping)) fun v r => { r with data := v },
    .optional "columns" (readOptional (readList readText)) fun v r =>
      { r with columns := v },
    .optional "domainRoute" (readOptional (readRecord DomainRoute.record)) fun v r =>
      { r with domainRoute := v }]

/-- Read a request. -/
def Request.parse (document : String) : Except Refusal Request :=
  Json.parse (readRecord Request.record) document

/-- An entry that is left out when its value is absent. -/
def entryOf? (key : String) (write : α → Value) (value : Option α) : Mapping :=
  (value.map fun v => (key, write v)).toList

/-- A text that is written as null when it is absent. -/
def textOrNull (value : Option String) : Value := (value.map Value.text).getD .null

/-- A list of texts. -/
def textArray (texts : List String) : Value := .array (texts.map Value.text)

/-- A whole number of 32 bits. -/
def word32 (n : UInt32) : Value := .integer n.toNat

/-- Paging and ordering as a value. -/
def PageQuery.toValue (page : PageQuery) : Value :=
  .mapping (entryOf? "pageNumber" word32 page.pageNumber ++
    entryOf? "pageSize" word32 page.pageSize ++ entryOf? "sort" Value.text page.sort)

/-- A route as a value. -/
def DomainRoute.toValue (route : DomainRoute) : Value :=
  .mapping ([("path", textArray route.path), ("reverse", .bool route.reverse),
    ("filters", .mapping route.filters)] ++
    entryOf? "lastDomainIdColumn" Value.text route.lastDomainIdColumn)

/-- Rows as a value. -/
def rowsValue (rows : List Row) : Value := .array (rows.map Value.mapping)

/-- A request as a value. -/
def Request.toValue (request : Request) : Value :=
  .mapping ([("operation", textOrNull request.operation), ("domain", textOrNull request.domain)] ++
    entryOf? "page" PageQuery.toValue request.page ++
    entryOf? "filters" Value.mapping request.filters ++
    entryOf? "data" rowsValue request.data ++
    entryOf? "columns" textArray request.columns ++
    entryOf? "domainRoute" DomainRoute.toValue request.domainRoute)

end DomainSql
