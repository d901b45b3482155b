import DomainSql.Text.Blank
import DomainSql.Text.Letter

/-!
# Lexemes

The pieces of a statement between which white space may be put: words, numerals,
quoted texts, comments, placeholders, operators and other single characters. The
white space in front of a piece is kept with it.
-/
namespace DomainSql.Sql

/-- A kind of piece. -/
inductive LexemeKind where
  | word
  | numeral
  | quotation
  | lineComment
  | blockComment
  /-- A placeholder, an operator or another character by itself. -/
  | symbol
deriving DecidableEq, Repr

/-- A piece of a statement, and the white space in front of it. -/
structure Lexeme where
  gap : String
  kind : LexemeKind
  text : String
deriving DecidableEq, Repr

namespace Lexeme

/-- A piece of a text and what follows it. -/
abbrev Cut := List Char × List Char

/-- The characters from the start on that have a property. -/
def run (belongs : Char → Bool) (cs : List Char) : Cut :=
  (cs.takeWhile belongs, cs.dropWhile belongs)

/-- Put characters in front of a piece. -/
def ahead (start : List Char) (cut : Cut) : Cut := (start ++ cut.1, cut.2)

/-- A character of the name of a placeholder. -/
def isNameCharacter (c : Char) : Bool := Text.isWordCharacter c || c = '.' || c = '$'

/-- The end of a quoted text with its closing mark; nothing if it does not end. A
closing mark behind an escaping character belongs to the text. -/
def quotationEnd? (closing : Char) (escaping : List Char) : List Char → Option Cut
  | [] => none
  | [c] => if c = closing then some ([c], []) else none
  | c :: d :: rest =>
    if escaping.contains c ∧ d = closing then
      (quotationEnd? closing escaping rest).map (ahead [c, d])
    else if c = closing then some ([c], d :: rest)
    else (quotationEnd? closing escaping (d :: rest)).map (ahead [c])

/-- A quoted text: between back quotes, brackets, double or single quotes, the last
also behind a letter that says what they hold. Doubling the closing mark keeps it in
the text, and so does a backslash between double or single quotes. -/
def quotation? : List Char → Option Cut
  | '\x60' :: rest => (quotationEnd? '\x60' ['\x60'] rest).map (ahead ['\x60'])
  | '[' :: rest => (quotationEnd? ']' [']'] rest).map (ahead ['['])
  | '\x22' :: rest => (quotationEnd? '\x22' ['\x22', '\\'] rest).map (ahead ['\x22'])
  | '\x27' :: rest => (quotationEnd? '\x27' ['\x27', '\\'] rest).map (ahead ['\x27'])
  | c :: '\x27' :: rest =>
    if c = 'N' ∨ c = 'E' then
      (quotationEnd? '\x27' ['\x27', '\\'] rest).map (ahead [c, '\x27'])
    else if c = 'x' ∨ c = 'X' then (quotationEnd? '\x27' [] rest).map (ahead [c, '\x27'])
    else none
  | _ => none

/-- The rest of a comment over several lines, which may be left open. -/
def blockCommentEnd : List Char → Cut
  | [] => ([], [])
  | '*' :: '/' :: rest => (['*', '/'], rest)
  | c :: rest => ahead [c] (blockCommentEnd rest)

/-- A comment, up to the end of its line or to its closing mark. -/
def comment? : List Char → Option (LexemeKind × Cut)
  | '#' :: rest => some (.lineComment, ahead ['#'] (run insideLine rest))
  | '-' :: '-' :: rest => some (.lineComment, ahead ['-', '-'] (run insideLine rest))
  | '/' :: '*' :: rest => some (.blockComment, ahead ['/', '*'] (blockCommentEnd rest))
  | _ => none
where
  insideLine (c : Char) : Bool := c ≠ '\n' && c ≠ '\r'

/-- The exponent of a numeral, if there is one. -/
def exponent (cs : List Char) : Cut :=
  match cs with
  | 'e' :: sign :: rest =>
    if sign.isDigit then ahead ['e', sign] (run Char.isDigit rest)
    else if (sign = '+' ∨ sign = '-') ∧ (rest.head?.map Char.isDigit).getD false then
      ahead ['e', sign] (run Char.isDigit rest)
    else ([], cs)
  | _ => ([], cs)

/-- A numeral without its sign: digits, a fraction and an exponent. -/
def numeral (cs : List Char) : Cut :=
  let (whole, rest) := run Char.isDigit cs
  let (fraction, rest) :=
    match rest with
    | '.' :: rest => ahead ['.'] (run Char.isDigit rest)
    | _ => ([], rest)
  ahead (whole ++ fraction) (exponent rest)

/-- A numeral, if the text starts with one. -/
def numeral? : List Char → Option Cut
  | c :: d :: rest =>
    if c.isDigit then some (numeral (c :: d :: rest))
    else if c = '-' ∧ d.isDigit then some (ahead ['-'] (numeral (d :: rest)))
    else none
  | [c] => if c.isDigit then some ([c], []) else none
  | [] => none

/-- A placeholder: a question mark or a dollar with a number, or a mark with a name or
a quoted name. -/
def placeholder? : List Char → Option Cut
  | '?' :: rest => some (ahead ['?'] (run Char.isDigit rest))
  | c :: d :: rest =>
    if c = '$' ∧ d.isDigit then some (ahead ['$', d] (run Char.isDigit rest))
    else if (c = '@' ∨ c = ':' ∨ c = '$') ∧ isNameCharacter d then
      some (ahead [c, d] (run isNameCharacter rest))
    else if c = '@' ∨ c = ':' then (quotation? (d :: rest)).map (ahead [c])
    else none
  | _ => none

/-- The operators of more than one character, in front of those that they start
with. -/
def operators : List String :=
  ["!~~*", "->>", "~~*", "!~~", "!~*", "!=", "<>", "==", "<=", ">=", "!<", "!>", "||", "::", "->",
   "~~", "~*", "!~", ":="]

/-- An operator; a character that starts none is one by itself. -/
def operator (cs : List Char) : Cut :=
  match operators.find? fun operator => operator.toList.isPrefixOf cs with
  | some operator => (operator.toList, cs.drop operator.length)
  | none => (cs.take 1, cs.drop 1)

/-- The first piece of a text. -/
def first (cs : List Char) : LexemeKind × Cut :=
  match comment? cs, quotation? cs, numeral? cs, placeholder? cs with
  | some found, _, _, _ => found
  | none, some cut, _, _ => (.quotation, cut)
  | none, none, some cut, _ => (.numeral, cut)
  | none, none, none, some cut => (.symbol, cut)
  | none, none, none, none =>
    match run Text.isWordCharacter cs with
    | ([], _) => (.symbol, operator cs)
    | cut => (.word, cut)

/-- The pieces of a text. Every step consumes a character, so as many steps as there
are characters are enough. -/
def split : Nat → List Char → List Lexeme
  | 0, _ => []
  | steps + 1, cs =>
    let (gap, cs) := run Text.isBlank cs
    if cs.isEmpty then []
    else
      let (kind, taken, rest) := first cs
      ⟨String.ofList gap, kind, String.ofList taken⟩ :: split steps rest

/-- The pieces of a text. -/
def ofText (text : String) : List Lexeme := split text.toList.length text.toList

end Lexeme

end DomainSql.Sql
