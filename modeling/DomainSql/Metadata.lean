import DomainSql.Metadata.Naming
import DomainSql.Metadata.Paging

/-!
# Metadata

What the compiler knows beside the request: how domains are named in the
database, and how pages are counted.
-/
namespace DomainSql

/-- Naming conventions and paging defaults. -/
structure Metadata where
  naming : Naming := {}
  paging : Paging := {}
deriving DecidableEq, Repr, Inhabited

end DomainSql
