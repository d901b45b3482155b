import DomainSql.Json.Failure

/-!
# Quoted texts

A text stands between quotation marks. A character above U+FFFF may be escaped
as a pair of surrogates; a surrogate without its partner names no character and
is refused.
-/
namespace DomainSql.Json

/-- The value of a hexadecimal digit in either case. -/
def hexValue? (c : Char) : Option Nat :=
  if c.isDigit then some (c.toNat - '0'.toNat)
  else if 'a' ≤ c ∧ c ≤ 'f' then some (c.toNat - 'a'.toNat + 10)
  else if 'A' ≤ c ∧ c ≤ 'F' then some (c.toNat - 'A'.toNat + 10)
  else none

/-- Four hexadecimal digits as a number. Four bytes are consumed before they are
looked at, so a fault in them stands behind all four, and a text with fewer bytes
left simply ends. -/
def readHex (cs : List Char) : Except Failure (Nat × List Char) :=
  if byteLength cs < 4 then .error (.after .endInText [])
  else
    let refused : Except Failure (Nat × List Char) :=
      .error ⟨.invalidEscape, some (byteLength cs - 4)⟩
    match cs with
    | a :: b :: c :: d :: rest =>
      match hexValue? a, hexValue? b, hexValue? c, hexValue? d with
      | some a, some b, some c, some d => .ok (((a * 16 + b) * 16 + c) * 16 + d, rest)
      | _, _, _, _ => refused
    | _ => refused

/-- A surrogate that has to come first. -/
def isLeading (unit : Nat) : Bool := 0xD800 ≤ unit && unit ≤ 0xDBFF

/-- A surrogate that has to come second. -/
def isTrailing (unit : Nat) : Bool := 0xDC00 ≤ unit && unit ≤ 0xDFFF

/-- The character of a pair of surrogates. -/
def surrogatePair (leading trailing : Nat) : Char :=
  Char.ofNat (0x10000 + (leading - 0xD800) * 0x400 + (trailing - 0xDC00))

/-- The trailing surrogate that has to follow a leading one. -/
def readTrailing (leading : Nat) (cs : List Char) : Except Failure (Char × List Char) :=
  match cs with
  | [] => .error (.after .endInText [])
  | '\\' :: [] => .error (.after .endInText [])
  | '\\' :: 'u' :: rest => do
    let (unit, rest) ← readHex rest
    if isTrailing unit then .ok (surrogatePair leading unit, rest)
    else .error (.after .loneSurrogate rest)
  | '\\' :: rest => .error (.at .unfinishedSurrogate rest)
  | _ => .error (.at .unfinishedSurrogate cs)

/-- A character escaped by its number, after the letter of the escape. -/
def readCodePoint (cs : List Char) : Except Failure (Char × List Char) := do
  let (unit, rest) ← readHex cs
  if isTrailing unit then .error (.after .loneSurrogate rest)
  else if isLeading unit then readTrailing unit rest
  else .ok (Char.ofNat unit, rest)

/-- The character that a letter after a backslash stands for. -/
def escapedLetter? (c : Char) : Option Char :=
  if c = '"' ∨ c = '\\' ∨ c = '/' then some c
  else if c = 'b' then some (Char.ofNat 8)
  else if c = 'f' then some (Char.ofNat 12)
  else if c = 'n' then some '\n'
  else if c = 'r' then some '\r'
  else if c = 't' then some '\t'
  else none

/-- An escaped character, after its backslash. -/
def readEscape (cs : List Char) : Except Failure (Char × List Char) :=
  match cs with
  | [] => .error (.after .endInText [])
  | 'u' :: rest => readCodePoint rest
  | c :: rest =>
    match escapedLetter? c with
    | some plain => .ok (plain, rest)
    | none => .error (.at .invalidEscape cs)

/-- The characters of a text up to its closing quotation mark. Every step
consumes a character, so as many steps as there are characters are enough. -/
def readCharacters : Nat → Scan (List Char)
  | 0, cs => .error (.after .endInText cs)
  | steps + 1, cs =>
    match cs with
    | [] => .error (.after .endInText [])
    | '"' :: rest => .ok ([], rest)
    | '\\' :: rest => do
      let (c, rest) ← readEscape rest
      let (text, rest) ← readCharacters steps rest
      .ok (c :: text, rest)
    | c :: rest =>
      if c.toNat < 32 then .error (.after .controlCharacter rest)
      else do
        let (text, rest) ← readCharacters steps rest
        .ok (c :: text, rest)

/-- A text, after its opening quotation mark. -/
def readQuotation (cs : List Char) : Except Failure (String × List Char) := do
  let (text, rest) ← readCharacters (cs.length + 1) cs
  .ok (String.ofList text, rest)

/-- Pass over a text, after its opening quotation mark. Escapes only have to be
spelled well; a surrogate without a partner passes, and a control character is
not consumed before it is refused. -/
def skipCharacters : Nat → List Char → Except Failure (List Char)
  | 0, cs => .error (.after .endInText cs)
  | steps + 1, cs =>
    match cs with
    | [] => .error (.after .endInText [])
    | '"' :: rest => .ok rest
    | '\\' :: [] => .error (.after .endInText [])
    | '\\' :: 'u' :: rest => do
      let (_, rest) ← readHex rest
      skipCharacters steps rest
    | '\\' :: c :: rest =>
      match escapedLetter? c with
      | some _ => skipCharacters steps rest
      | none => .error (.at .invalidEscape (c :: rest))
    | c :: rest =>
      if c.toNat < 32 then .error (.after .controlCharacter cs)
      else skipCharacters steps rest

/-- Pass over a text, after its opening quotation mark. -/
def skipQuotation (cs : List Char) : Except Failure (List Char) :=
  skipCharacters (cs.length + 1) cs

end DomainSql.Json
