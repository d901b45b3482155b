import DomainSql.Value

/-!
# Writing JSON

A value has one compact text, without any blank, and one indented text, two
blanks a level. Both keep the order of keys. Only a quotation mark, a backslash
and the characters below U+0020 are escaped inside a text; every other character
is written as it is.
-/
namespace DomainSql.Json

/-- A hexadecimal digit in lower case. -/
def hexDigit (n : Nat) : Char :=
  if n < 10 then Char.ofNat (n + '0'.toNat) else Char.ofNat (n - 10 + 'a'.toNat)

/-- A character inside a quoted text. -/
def escape (c : Char) : List Char :=
  if c = '"' then ['\\', '"']
  else if c = '\\' then ['\\', '\\']
  else if c = '\n' then ['\\', 'n']
  else if c = '\r' then ['\\', 'r']
  else if c = '\t' then ['\\', 't']
  else if c.toNat = 8 then ['\\', 'b']
  else if c.toNat = 12 then ['\\', 'f']
  else if c.toNat < 32 then
    ['\\', 'u', '0', '0', hexDigit (c.toNat / 16), hexDigit (c.toNat % 16)]
  else [c]

/-- A text between quotation marks. -/
def quote (text : String) : List Char := '"' :: (text.toList.flatMap escape ++ ['"'])

/-- The text of a scalar. -/
def writeScalar : Scalar → List Char
  | .null => ['n', 'u', 'l', 'l']
  | .bool true => ['t', 'r', 'u', 'e']
  | .bool false => ['f', 'a', 'l', 's', 'e']
  | .number n => n.text
  | .text s => quote s

mutual

/-- The compact text of a value. -/
def compact : Value → List Char
  | .scalar s => writeScalar s
  | .array items => '[' :: (compactItems items ++ [']'])
  | .mapping entries => '{' :: (compactEntries entries ++ ['}'])

/-- Array items between commas. -/
def compactItems : List Value → List Char
  | [] => []
  | [item] => compact item
  | item :: rest => compact item ++ ',' :: compactItems rest

/-- Mapping entries between commas. -/
def compactEntries : List (String × Value) → List Char
  | [] => []
  | [(key, value)] => quote key ++ ':' :: compact value
  | (key, value) :: rest => quote key ++ ':' :: (compact value ++ ',' :: compactEntries rest)

end

/-- A line feed and the blanks of an indentation level. -/
def newline (level : Nat) : List Char := '\n' :: List.replicate (2 * level) ' '

mutual

/-- The indented text of a value that starts on a line of the given level. An
empty array or mapping stays on its line. -/
def indented (level : Nat) : Value → List Char
  | .scalar s => writeScalar s
  | .array [] => ['[', ']']
  | .array items => '[' :: (indentedItems (level + 1) items ++ newline level ++ [']'])
  | .mapping [] => ['{', '}']
  | .mapping entries => '{' :: (indentedEntries (level + 1) entries ++ newline level ++ ['}'])

/-- Array items, each on a line of its own. -/
def indentedItems (level : Nat) : List Value → List Char
  | [] => []
  | [item] => newline level ++ indented level item
  | item :: rest => newline level ++ indented level item ++ ',' :: indentedItems level rest

/-- Mapping entries, each on a line of its own. -/
def indentedEntries (level : Nat) : List (String × Value) → List Char
  | [] => []
  | [(key, value)] => newline level ++ quote key ++ ':' :: ' ' :: indented level value
  | (key, value) :: rest =>
    newline level ++ quote key ++ ':' :: ' ' :: (indented level value ++
      ',' :: indentedEntries level rest)

end

/-- The compact text of a value as a string. -/
def text (value : Value) : String := String.ofList (compact value)

/-- The indented text of a value as a string. -/
def prettyText (value : Value) : String := String.ofList (indented 0 value)

end DomainSql.Json
