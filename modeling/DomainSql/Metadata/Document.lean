import DomainSql.Metadata
import DomainSql.Request.Document

/-!
# Metadata as documents

Every setting may be left out of a document and then has its default. A written
document states every setting.
-/
namespace DomainSql

open Json

/-- The naming settings as a record. -/
def Naming.record : Record Naming where
  name := "NamingConvention"
  draft := {}
  fields := [
    .optional "tableFormat" readText fun v n => { n with tableFormat := v },
    .optional "joinTableFormat" readText fun v n => { n with joinTableFormat := v },
    .optional "joinIdFormat" readText fun v n => { n with joinIdFormat := v },
    .optional "idColumn" readText fun v n => { n with idColumn := v },
    .optional "mapCamelCaseToUnderscore" readBool fun v n => { n with foldCase := v }]

/-- The paging settings as a record. -/
def Paging.record : Record Paging where
  name := "PagingSettings"
  draft := {}
  fields := [
    .optional "defaultPageSize" readWord32 fun v p => { p with defaultPageSize := v },
    .optional "startPageNumberFromOne" readBool fun v p =>
      { p with startPageNumberFromOne := v }]

/-- The metadata as a record. -/
def Metadata.record : Record Metadata where
  name := "Metadata"
  draft := {}
  fields := [
    .optional "naming" (readRecord Naming.record) fun v m => { m with naming := v },
    .optional "paging" (readRecord Paging.record) fun v m => { m with paging := v }]

/-- The naming settings as a value. -/
def Naming.toValue (naming : Naming) : Value :=
  .mapping [("tableFormat", .text naming.tableFormat),
    ("joinTableFormat", .text naming.joinTableFormat),
    ("joinIdFormat", .text naming.joinIdFormat), ("idColumn", .text naming.idColumn),
    ("mapCamelCaseToUnderscore", .bool naming.foldCase)]

/-- The paging settings as a value. -/
def Paging.toValue (paging : Paging) : Value :=
  .mapping [("defaultPageSize", word32 paging.defaultPageSize),
    ("startPageNumberFromOne", .bool paging.startPageNumberFromOne)]

/-- The metadata as a value. -/
def Metadata.toValue (metadata : Metadata) : Value :=
  .mapping [("naming", metadata.naming.toValue), ("paging", metadata.paging.toValue)]

end DomainSql
