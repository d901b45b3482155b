import DomainSql.Json.Numeral
import DomainSql.Json.Quotation

/-!
# Reading values and their parts

A reader consumes the blanks in front of its part and then the part itself. It
knows how many brackets may still be opened, which bounds the nesting of a
document, and it decides by the first character whether the part has the kind
that is expected. Because the first fault from the left ends the reading, a part
of the wrong kind is refused before anything behind it is looked at.
-/
namespace DomainSql.Json

/-- The number of brackets that may be open at the same time. -/
def maximalNesting : Nat := 127

/-- A reader takes the number of brackets that may still be opened and the text. -/
abbrev Reader (α : Type) := Nat → Scan α

/-- The four blanks of the format. -/
def isJsonBlank (c : Char) : Bool := c = ' ' || c = '\n' || c = '\t' || c = '\r'

/-- A text without the blanks at its start. -/
def skipBlanks (cs : List Char) : List Char := cs.dropWhile isJsonBlank

/-- The rest of a word whose first letter has been consumed. -/
def readWord : List Char → List Char → Except Failure (List Char)
  | [], cs => .ok cs
  | _ :: _, [] => .error (.after .endInValue [])
  | w :: ws, c :: rest => if c = w then readWord ws rest else .error (.at .expectedWord (c :: rest))

/-- The word for null without its first letter. -/
def nullTail : List Char := ['u', 'l', 'l']

/-- The word for truth without its first letter. -/
def trueTail : List Char := ['r', 'u', 'e']

/-- The word for falsehood without its first letter. -/
def falseTail : List Char := ['a', 'l', 's', 'e']

/-- The fault of a part that starts like another kind than the expected one. A
scalar is read to its end, so that the message can show it; a bracket is not
entered. -/
def invalidType (expected : String) (cs : List Char) : Failure :=
  let found (unexpected : Unexpected) (rest : List Char) : Failure :=
    .after (.invalidType unexpected expected) rest
  let word (unexpected : Unexpected) (tail rest : List Char) : Failure :=
    match readWord tail rest with
    | .ok rest => found unexpected rest
    | .error failure => failure
  match cs with
  | [] => .at .expectedValue []
  | 'n' :: rest => word .null nullTail rest
  | 't' :: rest => word (.bool true) trueTail rest
  | 'f' :: rest => word (.bool false) falseTail rest
  | '"' :: rest =>
    match readQuotation rest with
    | .ok (text, rest) => found (.text text) rest
    | .error failure => failure
  | '[' :: _ => found .sequence cs
  | '{' :: _ => found .mapping cs
  | c :: _ =>
    if startsNumber c then
      match readNumber cs with
      | .ok (number, rest) => found (.number number) rest
      | .error failure => failure
    else .at .expectedValue cs

/-- Read a part by its first character behind the blanks; a text that ends there
lacks a value. -/
def readPart (read : Scan α) (cs : List Char) : Except Failure (α × List Char) :=
  match skipBlanks cs with
  | [] => .error (.at .endInValue [])
  | cs => read cs

/-- A text. -/
def readText : Reader String := fun _ =>
  readPart fun
    | '"' :: rest => readQuotation rest
    | cs => .error (invalidType "a string" cs)

/-- A truth value. -/
def readBool : Reader Bool := fun _ =>
  readPart fun
    | 't' :: rest => do .ok (true, ← readWord trueTail rest)
    | 'f' :: rest => do .ok (false, ← readWord falseTail rest)
    | cs => .error (invalidType "a boolean" cs)

/-- A whole number of 32 bits. -/
def readWord32 : Reader UInt32 := fun _ =>
  readPart fun cs =>
    match cs with
    | [] => .error (.at .endInValue [])
    | c :: _ =>
      if startsNumber c then do
        let (number, rest) ← readNumber cs
        match number with
        | .integer n =>
          if 0 ≤ n ∧ n < UInt32.size then .ok (UInt32.ofNat n.toNat, rest)
          else .error (.after (.invalidValue (.number number) "u32") rest)
        | .double _ => .error (.after (.invalidType (.number number) "u32") rest)
      else .error (invalidType "u32" cs)

/-- Null, or what the reader reads. -/
def readOptional (read : Reader α) : Reader (Option α) := fun levels cs =>
  match skipBlanks cs with
  | 'n' :: rest => do .ok (none, ← readWord nullTail rest)
  | cs => do
    let (value, rest) ← read levels cs
    .ok (some value, rest)

/-- The items of an array behind its first one, up to the closing bracket. -/
def readMoreItems (item : Scan α) : Nat → Scan (List α)
  | 0, cs => .error (.at .endInArray cs)
  | steps + 1, cs =>
    match skipBlanks cs with
    | [] => .error (.at .endInArray [])
    | ']' :: rest => .ok ([], rest)
    | ',' :: rest =>
      match skipBlanks rest with
      | [] => .error (.at .endInValue [])
      | ']' :: rest => .error (.at .trailingComma (']' :: rest))
      | cs => do
        let (first, rest) ← item cs
        let (items, rest) ← readMoreItems item steps rest
        .ok (first :: items, rest)
    | cs => .error (.at .expectedCommaOrBracket cs)

/-- The items of an array, after its opening bracket. -/
def readItems (item : Scan α) (cs : List Char) : Except Failure (List α × List Char) :=
  match skipBlanks cs with
  | [] => .error (.at .endInArray [])
  | ']' :: rest => .ok ([], rest)
  | cs => do
    let (first, rest) ← item cs
    let (items, rest) ← readMoreItems item (rest.length + 1) rest
    .ok (first :: items, rest)

/-- The colon between a key and its value. -/
def readColon (cs : List Char) : Except Failure (List Char) :=
  match skipBlanks cs with
  | [] => .error (.at .endInObject [])
  | ':' :: rest => .ok rest
  | cs => .error (.at .expectedColon cs)

/-- One entry of a mapping, after the opening quotation mark of its key. -/
def readEntry (value : Scan α) (cs : List Char) :
    Except Failure ((String × α) × List Char) := do
  let (key, rest) ← readQuotation cs
  let rest ← readColon rest
  let (content, rest) ← value rest
  .ok ((key, content), rest)

/-- The entries of a mapping behind its first one, up to the closing brace. -/
def readMoreEntries (value : Scan α) : Nat → Scan (List (String × α))
  | 0, cs => .error (.at .endInObject cs)
  | steps + 1, cs =>
    match skipBlanks cs with
    | [] => .error (.at .endInObject [])
    | '}' :: rest => .ok ([], rest)
    | ',' :: rest =>
      match skipBlanks rest with
      | [] => .error (.at .endInValue [])
      | '"' :: rest => do
        let (first, rest) ← readEntry value rest
        let (entries, rest) ← readMoreEntries value steps rest
        .ok (first :: entries, rest)
      | '}' :: rest => .error (.at .trailingComma ('}' :: rest))
      | cs => .error (.at .keyNotText cs)
    | cs => .error (.at .expectedCommaOrBrace cs)

/-- The entries of a mapping, after its opening brace. -/
def readEntries (value : Scan α) (cs : List Char) :
    Except Failure ((List (String × α)) × List Char) :=
  match skipBlanks cs with
  | [] => .error (.at .endInObject [])
  | '}' :: rest => .ok ([], rest)
  | '"' :: rest => do
    let (first, rest) ← readEntry value rest
    let (entries, rest) ← readMoreEntries value (rest.length + 1) rest
    .ok (first :: entries, rest)
  | cs => .error (.at .keyNotText cs)

/-- A mapping from its entries in the order they were read: a repeated key keeps
its first place and its last value. -/
def mappingOf (entries : List (String × Value)) : Mapping :=
  entries.foldl (fun mapping entry => Entries.set entry.1 entry.2 mapping) []

/-- A mapping that has been read holds every key once. -/
theorem unique_mappingOf (entries : List (String × Value)) : (mappingOf entries).Unique := by
  have later (mapping : Mapping) (unique : mapping.Unique) :
      Mapping.Unique (entries.foldl (fun mapping entry => Entries.set entry.1 entry.2 mapping)
        mapping) := by
    induction entries generalizing mapping with
    | nil => exact unique
    | cons entry rest ih => exact ih _ (Entries.nodup_names_set unique entry.1 entry.2)
  exact later [] List.nodup_nil

/-- A value of any shape. -/
def readValue (levels : Nat) : Scan Value :=
  readPart fun cs =>
    match cs with
    | [] => .error (.at .endInValue [])
    | 'n' :: rest => do .ok (.null, ← readWord nullTail rest)
    | 't' :: rest => do .ok (.bool true, ← readWord trueTail rest)
    | 'f' :: rest => do .ok (.bool false, ← readWord falseTail rest)
    | '"' :: rest => do
      let (text, rest) ← readQuotation rest
      .ok (.text text, rest)
    | '[' :: rest =>
      match levels with
      | 0 => .error (.at .tooDeep cs)
      | inner + 1 => do
        let (items, rest) ← readItems (readValue inner) rest
        .ok (.array items, rest)
    | '{' :: rest =>
      match levels with
      | 0 => .error (.at .tooDeep cs)
      | inner + 1 => do
        let (entries, rest) ← readEntries (readValue inner) rest
        .ok (.mapping (mappingOf entries), rest)
    | c :: _ =>
      if startsNumber c then do
        let (number, rest) ← readNumber cs
        .ok (.scalar (.number number), rest)
      else .error (.at .expectedValue cs)

/-- An array whose items have one kind. -/
def readList (item : Reader α) : Reader (List α) := fun levels =>
  readPart fun cs =>
    match cs with
    | '[' :: rest =>
      match levels with
      | 0 => .error (.at .tooDeep cs)
      | inner + 1 => readItems (item inner) rest
    | _ => .error (invalidType "a sequence" cs)

/-- A mapping with values of any shape. -/
def readMapping : Reader Mapping := fun levels =>
  readPart fun cs =>
    match cs with
    | '{' :: rest =>
      match levels with
      | 0 => .error (.at .tooDeep cs)
      | inner + 1 => do
        let (entries, rest) ← readEntries (readValue inner) rest
        .ok (mappingOf entries, rest)
    | _ => .error (invalidType "a map" cs)

/-- A scalar. A well-formed document of another shape is refused as a whole. -/
def readScalar : Reader Scalar := fun levels cs => do
  let (value, rest) ← readValue levels cs
  match value with
  | .scalar scalar => .ok (scalar, rest)
  | _ => .error (.whole (.noVariant "Value"))

/-- Nothing but blanks may follow the part that a document consists of. -/
def readAll (read : Reader α) (cs : List Char) : Except Failure α := do
  let (value, rest) ← read maximalNesting cs
  match skipBlanks rest with
  | [] => .ok value
  | rest => .error (.at .trailingCharacters rest)

/-- Read a document. -/
def parse (read : Reader α) (document : String) : Except Refusal α :=
  match readAll read document.toList with
  | .ok value => .ok value
  | .error failure => .error (failure.report document.toList)

end DomainSql.Json
