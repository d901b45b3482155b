/-!
# Paging

Pages are numbered from one or from zero, and a page without a size has the
default size. The row where a page starts is a product of two numbers of 32 bits,
so 64 bits always hold it.
-/
namespace DomainSql

/-- How pages are counted. -/
structure Paging where
  /-- The size of a page that does not state one. -/
  defaultPageSize : UInt32 := 10
  /-- Whether the first page has the number one. -/
  startPageNumberFromOne : Bool := true
deriving DecidableEq, Repr, Inhabited

/-- The number of pages in front of a page. An absent number stands for the first
page, and so does zero where pages are numbered from one. -/
def Paging.pagesBefore (paging : Paging) : Option UInt32 → UInt32
  | none => 0
  | some number =>
    if paging.startPageNumberFromOne then (if number = 0 then 0 else number - 1) else number

/-- The number of rows in front of a page. -/
def Paging.offset (paging : Paging) (number : Option UInt32) (size : UInt32) : UInt64 :=
  (paging.pagesBefore number).toUInt64 * size.toUInt64

end DomainSql
