import DomainSql.Sql.Keyword
import DomainSql.Sql.Lexeme

/-!
# Statements over several lines

A statement is laid out over lines by its words alone. A clause opens with its
keyword on a line of its own, and what belongs to the clause follows one level
deeper. A group in parentheses, or between `CASE` and `END`, stays on its line if it
is short and holds neither a clause nor a keyword that starts a line; otherwise its
contents go one level deeper, and its end stands on a line of its own. Keywords are
known in capitals and in small letters, and whatever they stand for. A comment ends
its line, and what stands in it is left alone.
-/
namespace DomainSql.Sql.Layout

/-- The most bytes of a group that stays on its line, with its parentheses. -/
def inlineLength : Nat := 50

/-- A token of a statement. -/
inductive Token where
  | keyword (role : KeywordRole) (text : String)
  | opening (text : String)
  | closing (text : String)
  | comma
  /-- It stands between two names without a blank on either side. -/
  | dot
  /-- It follows what stands in front of it without a blank. -/
  | colon
  /-- It ends a statement. -/
  | semicolon
  | lineComment (text : String)
  | blockComment (text : String)
  /-- A word, a numeral or a quoted text. -/
  | name (text : String)
  /-- A placeholder, an operator or another character. -/
  | symbol (text : String)
deriving DecidableEq, Repr

/-- A token, and the white space in front of it. -/
structure Placed where
  gap : String
  token : Token
deriving DecidableEq, Repr

/-- The characters of a token. -/
def Token.text : Token → String
  | .keyword _ text | .opening text | .closing text | .lineComment text | .blockComment text
  | .name text | .symbol text => text
  | .comma => ","
  | .dot => "."
  | .colon => ":"
  | .semicolon => ";"

/-- What is known from the tokens in front of a lexeme. -/
structure Context where
  /-- Whether the last token is a dot. -/
  afterDot : Bool := false
  /-- Whether the last plain keyword is one that takes an `AND`. -/
  afterBetween : Bool := false
  /-- Whether the last clause is a selection. -/
  selecting : Bool := false

/-- The context behind a token. -/
def Context.pass (context : Context) (token : Token) : Context :=
  let context := { context with afterDot := token = .dot }
  match token with
  | .keyword .plain text => { context with afterBetween := text = "BETWEEN" }
  | .keyword .clause text => { context with selecting := text = "SELECT" }
  | _ => context

/-- The texts of the lexemes that may be the words of one keyword: white space stands
between them. -/
def wordsOf (first : Lexeme) : List Lexeme → List String
  | second :: third :: _ =>
    if second.gap.isEmpty then [first.text]
    else if third.gap.isEmpty then [first.text, second.text]
    else [first.text, second.text, third.text]
  | [second] => if second.gap.isEmpty then [first.text] else [first.text, second.text]
  | [] => [first.text]

/-- The longest keyword at the start of words, and how many of them it takes. -/
def keyword? (words : List String) : Nat → Option (Nat × KeywordRole × String)
  | 0 => none
  | count + 1 =>
    let text := " ".intercalate (words.take (count + 1))
    match KeywordRole.ofKeyword? text.toUpper with
    | some role => some (count + 1, role, text)
    | none => keyword? words count

/-- A keyword in its context. An `AND` that belongs to a `BETWEEN` starts no line, and
an `EXCEPT` that belongs to a selection opens no clause. -/
def Context.keyword (context : Context) (role : KeywordRole) (text : String) : Token :=
  if text = "AND" ∧ context.afterBetween then .keyword .plain text
  else if text = "EXCEPT" ∧ context.selecting then .name text
  else .keyword role text

/-- Whether a word with the parentheses behind it calls for the present time, which
counts as one keyword. -/
def callsNow (word : Lexeme) : List Lexeme → Bool
  | opening :: closing :: _ =>
    word.text.toUpper = "NOW" && opening.gap.isEmpty && opening.text = "(" &&
      closing.gap.isEmpty && closing.text = ")"
  | _ => false

/-- The token that a word starts, and how many further lexemes it takes. A word behind
a dot is no keyword. -/
def tokenOfWord (context : Context) (lexeme : Lexeme) (rest : List Lexeme) : Token × Nat :=
  let text := lexeme.text
  if text.toUpper = "CASE" then (.opening text, 0)
  else if text.toUpper = "END" then (.closing text, 0)
  else if context.afterDot ∧ lexeme.gap.isEmpty then (.name text, 0)
  else if callsNow lexeme rest then (.keyword .plain (text ++ "()"), 2)
  else
    let words := wordsOf lexeme rest
    match keyword? words words.length with
    | some (count, role, text) => (context.keyword role text, count - 1)
    | none => (.name text, 0)

/-- The token of a symbol. -/
def tokenOfSymbol : String → Token
  | "(" => .opening "("
  | ")" => .closing ")"
  | "," => .comma
  | "." => .dot
  | ":" => .colon
  | ";" => .semicolon
  | text => .symbol text

/-- The token that a lexeme starts, and how many further lexemes it takes. -/
def tokenOf (context : Context) (lexeme : Lexeme) (rest : List Lexeme) : Token × Nat :=
  match lexeme.kind with
  | .word => tokenOfWord context lexeme rest
  | .numeral | .quotation => (.name lexeme.text, 0)
  | .lineComment => (.lineComment lexeme.text, 0)
  | .blockComment => (.blockComment lexeme.text, 0)
  | .symbol => (tokenOfSymbol lexeme.text, 0)

/-- The tokens of lexemes, of which the first `taken` ones belong to a token already. -/
def tokens (context : Context) : Nat → List Lexeme → List Placed
  | _, [] => []
  | taken + 1, _ :: rest => tokens context taken rest
  | 0, lexeme :: rest =>
    let (token, further) := tokenOf context lexeme rest
    ⟨lexeme.gap, token⟩ :: tokens (context.pass token) further rest

/-- The number of bytes of a token with the white space in front of it. -/
def Placed.width (placed : Placed) : Nat :=
  placed.token.text.utf8ByteSize + placed.gap.utf8ByteSize

/-- Whether a group stays on its line. The tokens start behind its opening token,
`depth` counts the open ones and `used` the bytes so far. -/
def staysInline (depth used : Nat) : List Placed → Bool
  | [] => false
  | placed :: rest =>
    let used := used + placed.width
    if inlineLength < used then false
    else
      match placed.token with
      | .opening _ => staysInline (depth + 1) used rest
      | .closing _ => if depth ≤ 1 then true else staysInline (depth - 1) used rest
      | .keyword .clause _ | .keyword .joining _ | .semicolon | .lineComment _ | .blockComment _ =>
        false
      | _ => staysInline depth used rest

/-- What an indentation level was opened by. -/
inductive Indent where
  | clause
  | group
deriving DecidableEq, Repr

/-- The state of the layout: the lines so far in reverse, the indentation levels
from the innermost on, the number of open parentheses of a group that stays on its
line, and whether the last keyword is that of the limit of rows. -/
structure State where
  reversed : List Char := []
  indents : List Indent := []
  inline : Nat := 0
  limiting : Bool := false

namespace State

/-- Drop the blanks and tabulators at the end. -/
def trimEnd (state : State) : State :=
  { state with reversed := state.reversed.dropWhile fun c => c = ' ' || c = '\t' }

/-- The blanks at the start of a line. -/
def margin (state : State) : List Char := List.replicate (2 * state.indents.length) ' '

/-- Add text at the end. -/
def add (state : State) (text : String) : State :=
  { state with reversed := text.toList.reverse ++ state.reversed }

/-- Go to the start of a line at the current indentation. -/
def newline (state : State) : State :=
  let state := state.trimEnd
  let ended := if state.reversed.head? = some '\n' then state else state.add "\n"
  { ended with reversed := ended.margin ++ ended.reversed }

/-- Leave the current clause, if there is one. -/
def leaveClause (state : State) : State :=
  match state.indents with
  | .clause :: outer => { state with indents := outer }
  | _ => state

/-- Leave the current group with its clauses. -/
def leaveGroup (state : State) : State :=
  { state with indents := (state.indents.dropWhile (· = .clause)).drop 1 }

/-- Go one level deeper. -/
def enter (state : State) (indent : Indent) : State :=
  { state with indents := indent :: state.indents }

/-- The state behind a keyword, which ends the limit of rows unless it opens it. -/
def passKeyword (state : State) (text : String) : State :=
  { state with limiting := text.toUpper = "LIMIT" }

/-- Lay out a keyword. -/
def keyword (state : State) (text : String) : KeywordRole → State
  | .clause => ((state.leaveClause.newline.enter .clause).add text).newline
  | .between => (state.leaveClause.newline.add text).newline
  | .joining => state.newline.add (text ++ " ")
  | .plain => state.add (text ++ " ")

/-- Whether a token begins what a comment in front of it may be about. -/
def beginsContent : Token → Bool
  | .name _ | .keyword .clause _ | .keyword .between _ | .keyword .joining _ => true
  | _ => false

/-- Lay out a comment that ends its line. It stays on the line of what stands in front
of it, unless it has a line of its own and is about what follows. -/
def lineComment (state : State) (placed : Placed) (rest : List Placed) : State :=
  let isAhead :=
    match rest with
    | next :: _ => placed.gap.contains '\n' && !next.gap.isEmpty && beginsContent next.token
    | [] => false
  ((if isAhead then state.newline else state).add placed.token.text).newline

/-- The lines of a comment behind its first one: one that is indented is indented by one
blank more than the level it stands in. -/
def commentLine (state : State) (line : String) : List Char :=
  let kept := line.toList.dropWhile fun c => c = ' ' || c = '\t'
  if kept.length = line.length then '\n' :: kept else '\n' :: state.margin ++ ' ' :: kept

/-- Lay out a comment over several lines. It stands on lines of its own. -/
def blockComment (state : State) (text : String) : State :=
  let state := state.newline
  match text.splitOn "\n" with
  | [] => state.newline
  | first :: lines =>
    (state.add (first ++ String.ofList (lines.flatMap state.commentLine))).newline

/-- Lay out one token. `afterOpening` holds behind an opening token, `rest` are the
tokens that follow. -/
def step (state : State) (afterOpening : Bool) (placed : Placed) (rest : List Placed) : State :=
  match placed.token with
  | .keyword role text => (state.keyword text role).passKeyword text
  | .opening text =>
    let state := (if !placed.gap.isEmpty || afterOpening then state else state.trimEnd).add text
    if 0 < state.inline then { state with inline := state.inline + 1 }
    else if staysInline 1 text.utf8ByteSize rest then { state with inline := 1 }
    else (state.enter .group).newline
  | .closing text =>
    if 0 < state.inline then
      { state with inline := state.inline - 1 }.trimEnd.add (text ++ " ")
    else state.leaveGroup.newline.add (text ++ " ")
  | .comma =>
    let state := state.trimEnd.add ", "
    if 0 < state.inline || state.limiting then state else state.newline
  | .dot => state.trimEnd.add "."
  | .colon => state.trimEnd.add ": "
  | .semicolon => { state with indents := [] }.trimEnd.add ";\n"
  | .lineComment _ => state.lineComment placed rest
  | .blockComment text => state.blockComment text
  | .name text | .symbol text => state.add (text ++ " ")

/-- Lay out tokens in order. -/
def steps (state : State) (afterOpening : Bool) : List Placed → State
  | [] => state
  | placed :: rest =>
    let opens :=
      match placed.token with
      | .opening _ => true
      | _ => false
    (state.step afterOpening placed rest).steps opens rest

end State

/-- A statement over several lines. -/
def lines (sql : String) : String :=
  let state := State.steps {} false (tokens {} 0 (Lexeme.ofText sql))
  String.ofList (Text.trim state.reversed.reverse)

end DomainSql.Sql.Layout
