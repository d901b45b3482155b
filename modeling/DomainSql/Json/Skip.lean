import DomainSql.Json.Reader

/-!
# Passing over a value

The value of an unknown field is passed over without being built. Only its
spelling is checked: a numeral of any size passes, nesting has no bound, and a
trailing comma shows up as the value or the key that is missing behind it.
-/
namespace DomainSql.Json

/-- The exponent of a numeral that is passed over, after its letter. -/
def skipExponent (cs : List Char) : Except Failure (List Char) :=
  let cs :=
    match cs with
    | '+' :: rest => rest
    | '-' :: rest => rest
    | _ => cs
  match spanDigits cs with
  | ([], rest) => .error (.at .invalidNumber rest)
  | (_, rest) => .ok rest

/-- The end of a numeral that is passed over. -/
def skipDoubleEnd (cs : List Char) : Except Failure (List Char) :=
  match cs with
  | 'e' :: rest => skipExponent rest
  | 'E' :: rest => skipExponent rest
  | _ => .ok cs

/-- What follows the whole part of a numeral that is passed over. -/
def skipNumberEnd (cs : List Char) : Except Failure (List Char) :=
  match cs with
  | '.' :: rest =>
    match spanDigits rest with
    | ([], rest) => .error (.at .invalidNumber rest)
    | (_, rest) => skipDoubleEnd rest
  | _ => skipDoubleEnd cs

/-- A numeral that is passed over, after its sign. -/
def skipUnsigned (cs : List Char) : Except Failure (List Char) :=
  match cs with
  | '0' :: rest =>
    if (rest.head?.map Char.isDigit).getD false then .error (.at .invalidNumber rest)
    else skipNumberEnd rest
  | _ =>
    match spanDigits cs with
    | ([], rest) => .error (.at .invalidNumber rest)
    | (_, rest) => skipNumberEnd rest

/-- An open bracket around the place that has been reached. -/
inductive Bracket where
  | array
  | object
deriving DecidableEq, Repr

/-- The fault of a text that ends inside a bracket. -/
def Bracket.atEnd : Bracket → Cause
  | .array => .endInArray
  | .object => .endInObject

/-- The fault of a value inside a bracket that is followed by something else than
a comma or the end of the bracket. -/
def Bracket.unclosed : Bracket → Cause
  | .array => .expectedCommaOrBracket
  | .object => .expectedCommaOrBrace

/-- The closing character of a bracket. -/
def Bracket.closing : Bracket → Char
  | .array => ']'
  | .object => '}'

/-- A key and its colon. -/
def skipKey (cs : List Char) : Except Failure (List Char) :=
  match skipBlanks cs with
  | [] => .error (.at .endInObject [])
  | '"' :: rest => do
    let rest ← skipQuotation rest
    readColon rest
  | cs => .error (.at .keyNotText cs)

/-- What the text holds where the skipping has arrived: a value, or the place
behind an opening bracket (`first`) or behind a complete value of a bracket. -/
inductive Expecting where
  | value
  | next (first : Bool)

/-- Pass over values until all open brackets are closed. Every other step
consumes a character, so twice as many steps as there are characters are enough. -/
def skipFrom : Nat → List Bracket → Expecting → List Char → Except Failure (List Char)
  | 0, _, _, cs => .error (.at .endInValue cs)
  | steps + 1, open_, .value, cs =>
    match skipBlanks cs with
    | [] => .error (.at .endInValue [])
    | 'n' :: rest => do skipFrom steps open_ (.next false) (← readWord nullTail rest)
    | 't' :: rest => do skipFrom steps open_ (.next false) (← readWord trueTail rest)
    | 'f' :: rest => do skipFrom steps open_ (.next false) (← readWord falseTail rest)
    | '"' :: rest => do skipFrom steps open_ (.next false) (← skipQuotation rest)
    | '[' :: rest => skipFrom steps (.array :: open_) (.next true) rest
    | '{' :: rest => skipFrom steps (.object :: open_) (.next true) rest
    | '-' :: rest => do skipFrom steps open_ (.next false) (← skipUnsigned rest)
    | c :: rest =>
      if c.isDigit then do
        skipFrom steps open_ (.next false) (← skipUnsigned (c :: rest))
      else .error (.at .expectedValue (c :: rest))
  | _ + 1, [], .next _, cs => .ok cs
  | steps + 1, bracket :: outer, .next first, cs =>
    let enter (cs : List Char) : Except Failure (List Char) := do
      let cs ← if bracket = .object then skipKey cs else .ok cs
      skipFrom steps (bracket :: outer) .value cs
    match skipBlanks cs with
    | [] => .error (.at bracket.atEnd [])
    | c :: rest =>
      if c = ',' ∧ ¬ first then enter rest
      else if c = bracket.closing then skipFrom steps outer (.next false) rest
      else if first then enter (c :: rest)
      else .error (.at bracket.unclosed (c :: rest))

/-- Pass over one value. -/
def skipValue (cs : List Char) : Except Failure (List Char) :=
  skipFrom (2 * cs.length + 2) [] .value cs

end DomainSql.Json
