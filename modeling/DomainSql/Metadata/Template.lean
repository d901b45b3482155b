/-!
# Templates

A template is a text with places for names, each written as a pair of braces. The
places are found from the left and do not overlap. They are filled in order, and
a name that is put in is not looked at again, so a name that contains a pair of
braces itself takes no other name's place.
-/
namespace DomainSql.Template

/-- Fill the places of a template in order. Places without a name are left as
they are, and names without a place are dropped. -/
def fill : List Char → List (List Char) → List Char
  | template, [] => template
  | [], _ => []
  | '{' :: '}' :: rest, name :: names => name ++ fill rest names
  | c :: rest, name :: names => c :: fill rest (name :: names)

/-- The number of places of a template. -/
def places : List Char → Nat
  | '{' :: '}' :: rest => places rest + 1
  | _ :: rest => places rest
  | [] => 0

end DomainSql.Template
