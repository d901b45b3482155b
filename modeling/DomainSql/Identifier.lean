/-!
# Identifiers

Names from a request become part of the text of statements, so only plain names
are let in: letters, digits and underscores of ASCII, with no digit in front.
-/
namespace DomainSql

/-- A character that a plain name may start with. -/
def startsIdentifier (c : Char) : Bool := c.isAlpha || c = '_'

/-- A character that a plain name may go on with. -/
def continuesIdentifier (c : Char) : Bool := c.isAlphanum || c = '_'

/-- A plain name. -/
def isIdentifier (name : String) : Bool :=
  match name.toList with
  | [] => false
  | c :: rest => startsIdentifier c && rest.all continuesIdentifier

end DomainSql
