import DomainSql.Value
import DomainSql.Text.Quoted

/-!
# Why and where a document is refused

A document is read from the left, and the first fault ends the reading. While it
is read, the place of a fault is the number of bytes that were still unread,
which needs no counting along the way. Only the finished report turns that
number into a line and a column.

A fault seen by looking at a character that is not consumed yet counts that
character's first byte as read; every other fault counts what was consumed.
-/
namespace DomainSql.Json

/-- A value of the wrong kind, as far as a message names it. -/
inductive Unexpected where
  | null
  | bool (value : Bool)
  | number (value : Number)
  | text (value : String)
  | sequence
  | mapping
deriving DecidableEq, Repr

/-- The reason why a document is refused. -/
inductive Cause where
  | endInValue
  | endInText
  | endInArray
  | endInObject
  | expectedValue
  | expectedWord
  | expectedColon
  | expectedCommaOrBracket
  | expectedCommaOrBrace
  | trailingComma
  | trailingCharacters
  | keyNotText
  | invalidNumber
  | numberOutOfRange
  | invalidEscape
  | unfinishedSurrogate
  | loneSurrogate
  | controlCharacter
  | tooDeep
  | invalidType (found : Unexpected) (expected : String)
  | invalidValue (found : Unexpected) (expected : String)
  | unknownVariant (name : String) (expected : String)
  | missingField (name : String)
  | duplicateField (name : String)
  | invalidLength (length : Nat) (expected : String)
  | noVariant (type : String)
deriving DecidableEq, Repr

/-- A document is cut short, malformed, or well formed with the wrong content. -/
inductive Category where
  | eof
  | malformed
  | data
deriving DecidableEq, Repr

/-- The name of a category. -/
def Category.name : Category → String
  | .eof => "eof"
  | .malformed => "syntax"
  | .data => "data"

/-- The category of a cause. -/
def Cause.category : Cause → Category
  | .endInValue | .endInText | .endInArray | .endInObject => .eof
  | .invalidType .. | .invalidValue .. | .unknownVariant .. | .missingField _
  | .duplicateField _ | .invalidLength .. | .noVariant _ => .data
  | _ => .malformed

/-- The words for a value of the wrong kind. -/
def Unexpected.words : Unexpected → String
  | .null => "null"
  | .bool true => "boolean `true`"
  | .bool false => "boolean `false`"
  | .number (.integer n) => "integer `" ++ String.ofList (Number.integerText n) ++ "`"
  | .number (.double x) =>
    "floating point `" ++ String.ofList (x.text Number.doubleFormat) ++ "`"
  | .text s => "string " ++ Text.quoted s
  | .sequence => "sequence"
  | .mapping => "map"

/-- The words for a cause. -/
def Cause.words : Cause → String
  | .endInValue => "EOF while parsing a value"
  | .endInText => "EOF while parsing a string"
  | .endInArray => "EOF while parsing a list"
  | .endInObject => "EOF while parsing an object"
  | .expectedValue => "expected value"
  | .expectedWord => "expected ident"
  | .expectedColon => "expected `:`"
  | .expectedCommaOrBracket => "expected `,` or `]`"
  | .expectedCommaOrBrace => "expected `,` or `\x7d`"
  | .trailingComma => "trailing comma"
  | .trailingCharacters => "trailing characters"
  | .keyNotText => "key must be a string"
  | .invalidNumber => "invalid number"
  | .numberOutOfRange => "number out of range"
  | .invalidEscape => "invalid escape"
  | .unfinishedSurrogate => "unexpected end of hex escape"
  | .loneSurrogate => "lone leading surrogate in hex escape"
  | .controlCharacter => "control character (\\u0000-\\u001F) found while parsing a string"
  | .tooDeep => "recursion limit exceeded"
  | .invalidType found expected => "invalid type: " ++ found.words ++ ", expected " ++ expected
  | .invalidValue found expected => "invalid value: " ++ found.words ++ ", expected " ++ expected
  | .unknownVariant name expected =>
    "unknown variant `" ++ name ++ "`, expected `" ++ expected ++ "`"
  | .missingField name => "missing field `" ++ name ++ "`"
  | .duplicateField name => "duplicate field `" ++ name ++ "`"
  | .invalidLength length expected =>
    "invalid length " ++ Nat.repr length ++ ", expected " ++ expected
  | .noVariant type => "data did not match any variant of untagged enum " ++ type

/-- A fault met while reading: its cause, and the number of bytes that were
unread, or nothing for a fault of the document as a whole. -/
structure Failure where
  cause : Cause
  unread : Option Nat
deriving DecidableEq, Repr

/-- The number of bytes of a text. -/
def byteLength (cs : List Char) : Nat := cs.foldr (fun c rest => c.utf8Size + rest) 0

/-- A fault found after consuming everything before the rest. -/
def Failure.after (cause : Cause) (rest : List Char) : Failure :=
  ⟨cause, some (byteLength rest)⟩

/-- A fault seen by looking at the first byte of the rest. At the end of the text
there is nothing to look at, and the fault stands at the end. -/
def Failure.at (cause : Cause) (rest : List Char) : Failure :=
  ⟨cause, some (byteLength rest - 1)⟩

/-- A fault of the document as a whole, without a place. -/
def Failure.whole (cause : Cause) : Failure := ⟨cause, none⟩

/-- The line and the column after a number of bytes of a text. Lines count from
one, and the column is the number of bytes since the last line feed. -/
def place (line column : Nat) : Nat → List Char → Nat × Nat
  | _, [] => (line, column)
  | offset, c :: rest =>
    if offset < c.utf8Size then (line, column + offset)
    else if c = '\n' then place (line + 1) 0 (offset - 1) rest
    else place line (column + c.utf8Size) (offset - c.utf8Size) rest

/-- A refused document: the cause, and where it was found. Line zero stands for
the document as a whole. -/
structure Refusal where
  cause : Cause
  line : Nat
  column : Nat
deriving DecidableEq, Repr

/-- The report on a fault in a text. -/
def Failure.report (document : List Char) (failure : Failure) : Refusal :=
  match failure.unread with
  | none => ⟨failure.cause, 0, 0⟩
  | some unread =>
    let (line, column) := place 1 0 (byteLength document - unread) document
    ⟨failure.cause, line, column⟩

/-- The message of a refusal: the words for the cause, followed by the place. -/
def Refusal.message (refusal : Refusal) : String :=
  if refusal.line = 0 then refusal.cause.words
  else
    refusal.cause.words ++ " at line " ++ Nat.repr refusal.line ++
      " column " ++ Nat.repr refusal.column

/-- A scan takes a text and gives a result with the rest of the text, or the fault
that ends the reading. -/
abbrev Scan (α : Type) := List Char → Except Failure (α × List Char)

end DomainSql.Json
