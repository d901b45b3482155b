import DomainSql.CompileError
import DomainSql.Metadata
import DomainSql.Request
import DomainSql.Sql.Statement
import DomainSql.Text.Blank

/-!
# Sorting and paging

A sort text holds entries between semicolons. An entry is a column, or a column
and a direction with a comma between them; blanks around either do not count. A
blank sort text asks for no order at all.
-/
namespace DomainSql

open Sql

/-- The parts of a text between separators; there is one more than separators. -/
def splitAt (separator : Char) : List Char → List (List Char)
  | [] => [[]]
  | c :: rest =>
    match splitAt separator rest with
    | [] => [[c]]
    | part :: parts => if c = separator then [] :: part :: parts else (c :: part) :: parts

/-- The parts of a text in front of and behind its first separator, if there is
one. -/
def splitFirst? (separator : Char) : List Char → Option (List Char × List Char)
  | [] => none
  | c :: rest =>
    if c = separator then some ([], rest)
    else (splitFirst? separator rest).map fun (front, back) => (c :: front, back)

/-- The direction that a word asks for, in letters of either case. -/
def directionOf? (word : List Char) : Option Direction :=
  match String.ofList ((Text.trim word).map Char.toLower) with
  | "asc" => some .ascending
  | "desc" => some .descending
  | _ => none

/-- The order that an entry asks for. The direction is ascending if there is
none. -/
def sortItem? (naming : Naming) (entry : List Char) : Option OrderItem := do
  let (column, direction) ←
    match splitFirst? ',' entry with
    | none => some (entry, .ascending)
    | some (column, word) => (directionOf? word).map (column, ·)
  let column := String.ofList (Text.trim column)
  if isIdentifier column then some ⟨naming.columnName column, direction⟩ else none

/-- The order that a sort text asks for. An error names the whole text without the
blanks around it. -/
def compileSort (naming : Naming) (sort : Option String) :
    Except CompileError (List OrderItem) :=
  let text := Text.trim ((sort.getD "").toList)
  if text.isEmpty then .ok []
  else
    match (splitAt ';' text).mapM (sortItem? naming) with
    | some items => .ok items
    | none => .error (.invalidSort (String.ofList text))

/-- The rows that a page asks for. -/
def compileWindow (paging : Paging) (page : PageQuery) : Except CompileError Window :=
  let size := page.pageSize.getD paging.defaultPageSize
  if size = 0 then .error .invalidPageSize
  else .ok { limit := some size, offset := some (paging.offset page.pageNumber size) }

end DomainSql
