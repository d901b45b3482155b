import DomainSql.Proofs.Meaning
import DomainSql.Proofs.SeparatedLists
import DomainSql.Sql.Text

/-!
# Clauses as SQL reads them

What a clause means is read off its text and not off the term that was rendered into it.
SQL reads what stands in parentheses first, then what is joined by `AND`, and then what is
joined by `OR`. The syntax trees of a grammar in which this order is built in have tokens
and a meaning, and no two trees have the same tokens: whoever reads a clause by these
rules reads one tree.

A name is one token, whatever its letters are.
-/
namespace DomainSql.Sql

/-- The words and signs between names and values. -/
inductive Word where
  | relation (comparison : Comparison)
  | opens (membership : Membership)
  | test (nullTest : NullTest)
  | openGroup
  | close
  | comma
  | or
  | and
  | whereWord
  | selectWord
  | fromWord
  | intersect
deriving DecidableEq, Repr

/-- A word as it stands in a text. -/
def Word.text : Word → String
  | .relation comparison => comparison.keyword
  | .opens membership => membership.keyword ++ "("
  | .test nullTest => nullTest.keyword
  | .openGroup => "("
  | .close => ")"
  | .comma => ", "
  | .or => " OR "
  | .and => " AND "
  | .whereWord => " WHERE "
  | .selectWord => "SELECT "
  | .fromWord => " FROM "
  | .intersect => " INTERSECT "

/-- A token: a name, a value in the place of its placeholder, or a word. -/
inductive Token where
  | name (letters : String)
  | value (scalar : Scalar)
  | word (word : Word)
deriving DecidableEq, Repr

/-- A token as a piece of a rendered text. -/
def Token.fragment : Token → Fragment
  | .name letters => .text letters
  | .value scalar => .place scalar
  | .word sign => .text sign.text

/-- Tokens as they are given to a database. -/
def written (tokens : List Token) : Prepared := prepare (tokens.map Token.fragment)

mutual

/-- What is joined by `OR`. -/
inductive Disjunction where
  | single (first : Conjunction)
  | or (first : Conjunction) (rest : Disjunction)

/-- What is joined by `AND`. -/
inductive Conjunction where
  | single (first : Predicate)
  | and (first : Predicate) (rest : Conjunction)

/-- A test of a column, or a disjunction in parentheses. -/
inductive Predicate where
  | compare (column : ColumnName) (relation : Comparison) (value : Scalar)
  | member (column : ColumnName) (test : Membership) (values : List Scalar)
  | nullTest (column : ColumnName) (test : NullTest)
  | inSelects (column : ColumnName) (test : Membership) (selects : Intersection)
  | enclosed (inner : Disjunction)

/-- Sub-selects joined by `INTERSECT`. -/
inductive Intersection where
  | single (first : Selection)
  | intersect (first : Selection) (rest : Intersection)

/-- A sub-select, with or without a clause of its own. -/
inductive Selection where
  | all (column : ColumnName) (source : TableName)
  | such (column : ColumnName) (source : TableName) (clause : Disjunction)

end

/-- The syntax tree of a clause, if there is a clause. -/
abbrev Clause := Option Disjunction

/-- Values with commas between them. -/
def commaSeparated : List Scalar → List Token
  | [] => []
  | [value] => [.value value]
  | value :: rest => .value value :: .word .comma :: commaSeparated rest

mutual

/-- Conjunctions stand between the words that join them. -/
def Disjunction.tokens : Disjunction → List Token
  | .single first => first.tokens
  | .or first rest => first.tokens ++ .word .or :: rest.tokens

/-- Predicates stand between the words that join them. -/
def Conjunction.tokens : Conjunction → List Token
  | .single first => first.tokens
  | .and first rest => first.tokens ++ .word .and :: rest.tokens

/-- A predicate starts with its column or with a parenthesis. -/
def Predicate.tokens : Predicate → List Token
  | .compare column relation value => [.name column, .word (.relation relation), .value value]
  | .member column test values =>
    .name column :: .word (.opens test) :: (commaSeparated values ++ [.word .close])
  | .nullTest column test => [.name column, .word (.test test)]
  | .inSelects column test selects =>
    .name column :: .word (.opens test) :: (selects.tokens ++ [.word .close])
  | .enclosed inner => .word .openGroup :: (inner.tokens ++ [.word .close])

/-- Sub-selects stand between the words that intersect them. -/
def Intersection.tokens : Intersection → List Token
  | .single first => first.tokens
  | .intersect first rest => first.tokens ++ .word .intersect :: rest.tokens

/-- A sub-select without conditions has no keyword for them. -/
def Selection.tokens : Selection → List Token
  | .all column source => [.word .selectWord, .name column, .word .fromWord, .name source]
  | .such column source clause =>
    .word .selectWord :: .name column :: .word .fromWord :: .name source ::
      .word .whereWord :: clause.tokens

end

/-- The tokens of a clause stand behind their keyword. -/
def Clause.tokens : Clause → List Token
  | none => []
  | some clause => .word .whereWord :: clause.tokens

mutual

/-- At least one part is true. -/
def Disjunction.truth (database : Database) : Disjunction → Tuple → Truth
  | .single first, tuple => first.truth database tuple
  | .or first rest, tuple => Truth.any [first.truth database tuple, rest.truth database tuple]

/-- All parts are true. -/
def Conjunction.truth (database : Database) : Conjunction → Tuple → Truth
  | .single first, tuple => first.truth database tuple
  | .and first rest, tuple => Truth.all [first.truth database tuple, rest.truth database tuple]

/-- What is enclosed has the truth that it has alone. -/
def Predicate.truth (database : Database) : Predicate → Tuple → Truth
  | .compare column relation value, tuple => database.compared (tuple column) relation value
  | .member column .isIn values, tuple => database.among (tuple column) values
  | .member column .notIn values, tuple => (database.among (tuple column) values).negation
  | .nullTest column .isNull, tuple => some (tuple column = .null)
  | .nullTest column .isNotNull, tuple => some (tuple column ≠ .null)
  | .inSelects column .isIn selects, tuple =>
    database.among (tuple column) (database.common (selects.lists database))
  | .inSelects column .notIn selects, tuple =>
    (database.among (tuple column) (database.common (selects.lists database))).negation
  | .enclosed inner, tuple => inner.truth database tuple

/-- The values that each of the sub-selects gives. -/
def Intersection.lists (database : Database) : Intersection → List (List Scalar)
  | .single first => [first.values database]
  | .intersect first rest => first.values database :: rest.lists database

/-- The column of the rows of which the clause is true. -/
def Selection.values (database : Database) : Selection → List Scalar
  | .all column source => (database.rows source).map (· column)
  | .such column source clause =>
    ((database.rows source).filter fun tuple => clause.truth database tuple = some true).map
      (· column)

end

/-- A clause keeps the rows of which it is true, and no clause keeps all rows. -/
def Clause.Keeps (clause : Clause) (database : Database) (tuple : Tuple) : Prop :=
  ∀ disjunction ∈ clause, disjunction.truth database tuple = some true

/-- A sub-select starts with its keyword. -/
theorem Intersection.tokens_eq_cons (selects : Intersection) :
    ∃ tail, selects.tokens = .word .selectWord :: tail := by
  cases selects with
  | single first => cases first <;> exact ⟨_, rfl⟩
  | intersect first rest => cases first <;> exact ⟨_, rfl⟩

/-- Values between commas are told by the parenthesis behind them. -/
theorem commaSeparated_told {values values' : List Scalar} {rest rest' : List Token}
    (same : commaSeparated values ++ .word .close :: rest =
      commaSeparated values' ++ .word .close :: rest') :
    values = values' ∧ rest = rest' := by
  fun_induction commaSeparated values generalizing values' with
  | case1 =>
    match values' with
    | [] => simpa [commaSeparated] using same
    | [_] | _ :: _ :: _ => simp [commaSeparated] at same
  | case2 value =>
    match values' with
    | [other] => simpa [commaSeparated] using same
    | [] | _ :: _ :: _ => simp [commaSeparated] at same
  | case3 value rest _ ih =>
    match values' with
    | [] | [_] => simp [commaSeparated] at same
    | other :: second :: more =>
      simp only [commaSeparated, List.cons_append, List.cons.injEq, Token.value.injEq,
        true_and] at same
      obtain ⟨rfl, behind⟩ := same
      obtain ⟨rfl, sameRest⟩ := ih behind
      exact ⟨rfl, sameRest⟩

/-- Behind the parenthesis of a list of values no sub-select starts. -/
theorem commaSeparated_ne_select (values : List Scalar) (rest tail : List Token) :
    commaSeparated values ++ .word .close :: rest ≠ .word .selectWord :: tail := by
  fun_cases commaSeparated values <;> simp

/-- A disjunction is one conjunction, or more of them with `OR` between them. -/
theorem Disjunction.joined :
    Joined (.word .or) Conjunction.tokens Disjunction.tokens .single .or where
  shape
    | .single first => .inl ⟨first, rfl⟩
    | .or first rest => .inr ⟨first, rest, rfl⟩
  marks_single _ := rfl
  marks_join _ _ := rfl

/-- A conjunction is one predicate, or more of them with `AND` between them. -/
theorem Conjunction.joined :
    Joined (.word .and) Predicate.tokens Conjunction.tokens .single .and where
  shape
    | .single first => .inl ⟨first, rfl⟩
    | .and first rest => .inr ⟨first, rest, rfl⟩
  marks_single _ := rfl
  marks_join _ _ := rfl

/-- An intersection is one sub-select, or more of them with `INTERSECT` between them. -/
theorem Intersection.joined :
    Joined (.word .intersect) Selection.tokens Intersection.tokens .single .intersect where
  shape
    | .single first => .inl ⟨first, rfl⟩
    | .intersect first rest => .inr ⟨first, rest, rfl⟩
  marks_single _ := rfl
  marks_join _ _ := rfl

mutual

/-- Disjunctions are told from each other, as long as none of the words that join their
parts comes next. -/
theorem Disjunction.told :
    ∀ first second, Told Disjunction.tokens (Stops [.word .or, .word .and]) first second
  | .single first => Disjunction.joined.told_single (by decide) (Conjunction.told first)
  | .or first rest =>
    Disjunction.joined.told_join (by decide) (Conjunction.told first) (Disjunction.told rest)

/-- Conjunctions are told from each other, as long as the word that joins their parts does
not come next. -/
theorem Conjunction.told :
    ∀ first second, Told Conjunction.tokens (Stops [.word .and]) first second
  | .single first => Conjunction.joined.told_single (by decide) (Predicate.told first)
  | .and first rest =>
    Conjunction.joined.told_join (by decide) (Predicate.told first) (Conjunction.told rest)

/-- Predicates are told from each other, whatever comes next. The first two tokens leave
only predicates of the same form, or values and sub-selects, to compare. -/
theorem Predicate.told (first second : Predicate) :
    Told Predicate.tokens (Stops []) first second := by
  intro rest rest' _ _ same
  cases first <;> cases second <;>
    simp only [Predicate.tokens, List.cons_append, List.append_assoc, List.nil_append,
      List.cons.injEq, Token.name.injEq, Token.word.injEq, Word.opens.injEq, reduceCtorEq,
      false_and, and_false, true_and] at same
  case compare.compare => simpa [and_assoc] using same
  case nullTest.nullTest => simpa [and_assoc] using same
  case member.member =>
    obtain ⟨rfl, rfl, behind⟩ := same
    obtain ⟨rfl, sameRest⟩ := commaSeparated_told behind
    exact ⟨rfl, sameRest⟩
  case inSelects.inSelects selects _ _ selects' =>
    obtain ⟨rfl, rfl, behind⟩ := same
    obtain ⟨rfl, behindClose⟩ := Intersection.told selects selects' _ _ (stops_cons (by decide))
      (stops_cons (by decide)) behind
    exact ⟨rfl, (List.cons.inj behindClose).2⟩
  case enclosed.enclosed inner inner' =>
    obtain ⟨rfl, behindClose⟩ := Disjunction.told inner inner' _ _ (stops_cons (by decide))
      (stops_cons (by decide)) same
    exact ⟨rfl, (List.cons.inj behindClose).2⟩
  case member.inSelects values _ _ selects =>
    obtain ⟨tail, selecting⟩ := selects.tokens_eq_cons
    rw [selecting, List.cons_append] at same
    exact absurd same.2.2 (commaSeparated_ne_select _ _ _)
  case inSelects.member selects _ _ values =>
    obtain ⟨tail, selecting⟩ := selects.tokens_eq_cons
    rw [selecting, List.cons_append] at same
    exact absurd same.2.2.symm (commaSeparated_ne_select _ _ _)

/-- Intersections are told from each other, as long as no word comes next that would go
on with the last sub-select or with the list of them. -/
theorem Intersection.told : ∀ first second, Told Intersection.tokens
    (Stops [.word .intersect, .word .whereWord, .word .or, .word .and]) first second
  | .single first => Intersection.joined.told_single (by decide) (Selection.told first)
  | .intersect first rest =>
    Intersection.joined.told_join (by decide) (Selection.told first) (Intersection.told rest)

/-- Sub-selects are told from each other, as long as no word comes next that would go on
with them. -/
theorem Selection.told : ∀ first second,
    Told Selection.tokens (Stops [.word .whereWord, .word .or, .word .and]) first second
  | .all .., .all .., rest, rest', stops, stops', same => by
    simpa [Selection.tokens, and_assoc] using same
  | .all .., .such .., rest, rest', stops, stops', same => by
    simp only [Selection.tokens, List.cons_append, List.cons.injEq, List.nil_append] at same
    exact absurd same.2.2.2.2 (stops.ne_cons (by decide))
  | .such .., .all .., rest, rest', stops, stops', same => by
    simp only [Selection.tokens, List.cons_append, List.cons.injEq, List.nil_append] at same
    exact absurd same.2.2.2.2.symm (stops'.ne_cons (by decide))
  | .such _ _ clause, .such _ _ clause', rest, rest', stops, stops', same => by
    simp only [Selection.tokens, List.cons_append, List.cons.injEq, Token.name.injEq] at same
    obtain ⟨_, rfl, _, rfl, _, behind⟩ := same
    obtain ⟨rfl, sameRest⟩ := Disjunction.told clause clause' _ _ (stops.mono (by decide))
      (stops'.mono (by decide)) behind
    exact ⟨rfl, sameRest⟩

end

/-- No two clauses have the same tokens. -/
theorem Clause.tokens_injective : Function.Injective Clause.tokens := by
  intro first second same
  have stops : Stops [Token.word .or, .word .and] [] := by
    intro _ _ impossible
    cases impossible
  match first, second with
  | none, none => rfl
  | none, some _ | some _, none => cases same
  | some first, some second =>
    have behind : first.tokens ++ [] = second.tokens ++ [] := by simpa [tokens] using same
    rw [(first.told second _ _ stops stops behind).1]

end DomainSql.Sql
