import DomainSql.Json.Skip

/-!
# Records

A record has named fields in a fixed order. In a document it is an object, whose
keys come in any order and whose unknown keys are passed over, or an array with
the values of the fields in order, where fields at the end may be missing. Either
way a field that is left out keeps the value it has in the initial draft, unless
it is required.
-/
namespace DomainSql.Json

/-- A field of a record: its name, whether it has to be there, and how its value
changes the draft that is filled in. -/
structure Field (σ : Type) where
  name : String
  required : Bool
  read : Reader (σ → σ)

/-- A field that may be left out. -/
def Field.optional (name : String) (read : Reader α) (put : α → σ → σ) : Field σ where
  name := name
  required := false
  read := fun levels cs => do
    let (value, rest) ← read levels cs
    .ok (put value, rest)

/-- A field that has to be there. -/
def Field.needed (name : String) (read : Reader α) (put : α → σ → σ) : Field σ :=
  { Field.optional name read put with required := true }

/-- A record: the name that messages use, its fields in order, and the draft in
which no field has been read. -/
structure Record (σ : Type) where
  name : String
  fields : List (Field σ)
  draft : σ

/-- The words for a record in a message. -/
def Record.words (record : Record σ) : String := "struct " ++ record.name

/-- The closing bracket behind the last field of a record given as an array. -/
def readArrayEnd (cs : List Char) : Except Failure (List Char) :=
  match skipBlanks cs with
  | [] => .error (.at .endInArray [])
  | ']' :: rest => .ok rest
  | ',' :: rest =>
    match skipBlanks rest with
    | ']' :: rest => .error (.at .trailingComma (']' :: rest))
    | cs => .error (.at .trailingCharacters cs)
  | cs => .error (.at .trailingCharacters cs)

/-- The end of a record given as an array before all its fields were there. -/
def endEarly (record : Record σ) (missing : List (Field σ)) (draft : σ) (rest : List Char) :
    Except Failure (σ × List Char) :=
  match missing.findIdx? (·.required) with
  | none => .ok (draft, rest)
  | some i =>
    let count := record.fields.length
    .error (.after (.invalidLength (count - missing.length + i)
      (record.words ++ " with " ++ Nat.repr count ++ " elements")) rest)

/-- The fields of a record given as an array; `first` holds before the first one. -/
def readInOrder (record : Record σ) (levels : Nat) :
    List (Field σ) → Bool → σ → Scan σ
  | [], _, draft, cs => do .ok (draft, ← readArrayEnd cs)
  | field :: fields, first, draft, cs =>
    let take (cs : List Char) : Except Failure (σ × List Char) := do
      let (put, rest) ← field.read levels cs
      readInOrder record levels fields false (put draft) rest
    match skipBlanks cs with
    | [] => .error (.at .endInArray [])
    | ']' :: rest => endEarly record (field :: fields) draft rest
    | c :: rest =>
      if first then take (c :: rest)
      else if c = ',' then
        match skipBlanks rest with
        | [] => .error (.at .endInValue [])
        | ']' :: rest => .error (.at .trailingComma (']' :: rest))
        | cs => take cs
      else .error (.at .expectedCommaOrBracket (c :: rest))

/-- The fault of a repeated field. It is reported behind the blanks that follow
the key, and behind the closing brace if the object ends there. -/
def duplicate (name : String) (cs : List Char) : Failure :=
  match skipBlanks cs with
  | '}' :: rest => .after (.duplicateField name) rest
  | rest => .after (.duplicateField name) rest

/-- The end of a record given as an object, after its closing brace. -/
def endObject (record : Record σ) (seen : List String) (draft : σ) (rest : List Char) :
    Except Failure (σ × List Char) :=
  match record.fields.find? (fun field => field.required && !seen.contains field.name) with
  | some field => .error (.after (.missingField field.name) rest)
  | none => .ok (draft, rest)

/-- One entry of a record given as an object, after the opening quotation mark of
its key: the fields seen so far, the draft, and the rest. -/
def readMember (record : Record σ) (levels : Nat) (seen : List String) (draft : σ)
    (cs : List Char) : Except Failure ((List String × σ) × List Char) := do
  let (key, rest) ← readQuotation cs
  match record.fields.find? (·.name = key) with
  | none =>
    let rest ← readColon rest
    let rest ← skipValue rest
    .ok ((seen, draft), rest)
  | some field =>
    if seen.contains key then .error (duplicate key rest)
    else
      let rest ← readColon rest
      let (put, rest) ← field.read levels rest
      .ok ((key :: seen, put draft), rest)

/-- The entries of a record given as an object; `first` holds before the first. -/
def readByName (record : Record σ) (levels : Nat) :
    Nat → Bool → List String → σ → Scan σ
  | 0, _, _, _, cs => .error (.at .endInObject cs)
  | steps + 1, first, seen, draft, cs =>
    let member (cs : List Char) : Except Failure (σ × List Char) := do
      let ((seen, draft), rest) ← readMember record levels seen draft cs
      readByName record levels steps false seen draft rest
    match skipBlanks cs with
    | [] => .error (.at .endInObject [])
    | '}' :: rest => endObject record seen draft rest
    | c :: rest =>
      if first then
        if c = '"' then member rest else .error (.at .keyNotText (c :: rest))
      else if c = ',' then
        match skipBlanks rest with
        | [] => .error (.at .endInValue [])
        | '"' :: rest => member rest
        | '}' :: rest => .error (.at .trailingComma ('}' :: rest))
        | cs => .error (.at .keyNotText cs)
      else .error (.at .expectedCommaOrBrace (c :: rest))

/-- Read a record in either form. -/
def readRecord (record : Record σ) : Reader σ := fun levels =>
  readPart fun cs =>
    match cs, levels with
    | '[' :: _, 0 => .error (.at .tooDeep cs)
    | '{' :: _, 0 => .error (.at .tooDeep cs)
    | '[' :: rest, inner + 1 => readInOrder record inner record.fields true record.draft rest
    | '{' :: rest, inner + 1 =>
      readByName record inner (rest.length + 1) true [] record.draft rest
    | _, _ => .error (invalidType record.words cs)

end DomainSql.Json
