import DomainSql.Text.Visible

/-!
# Quoted texts in messages

A message quotes a text so that a reader can tell every character of it. The
quotation mark and the backslash are escaped, four controls have a letter of
their own, and every other character without a visible form is written as the
hexadecimal number of its code point.
-/
namespace DomainSql.Text

/-- A code point in hexadecimal between braces, without leading zeros. -/
def codePoint (c : Char) : List Char :=
  ['\\', 'u', '{'] ++ Nat.toDigits 16 c.toNat ++ ['}']

/-- A character of a quoted text. -/
def quotedChar (c : Char) : List Char :=
  if c = '"' then ['\\', '"']
  else if c = '\\' then ['\\', '\\']
  else if c = '\n' then ['\\', 'n']
  else if c = '\r' then ['\\', 'r']
  else if c = '\t' then ['\\', 't']
  else if c.toNat = 0 then ['\\', '0']
  else if isVisible c then [c]
  else codePoint c

/-- A text between quotation marks. -/
def quoted (text : String) : String :=
  String.ofList ('"' :: (text.toList.flatMap quotedChar ++ ['"']))

end DomainSql.Text
