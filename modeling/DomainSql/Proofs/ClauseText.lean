import DomainSql.Proofs.ClauseReading
import DomainSql.Proofs.Marks
import Mathlib.Data.List.Chain

/-!
# The tokens of a clause's text

Where names are plain, the text of a clause and its arguments determine its tokens, and
so they determine what the clause means. A word that a sub-select starts with could be the
beginning of a name, and a word in front of a value could be a part of one; what stands
before it tells. No names and values stand next to each other, so that a name ends where
the word behind it begins.
-/
namespace DomainSql.Sql

namespace Word

/-- All words. -/
def all : List Word :=
  [.relation .equal, .relation .notEqual, .relation .greater, .relation .greaterOrEqual,
    .relation .less, .relation .lessOrEqual, .relation .like, .relation .notLike, .opens .isIn,
    .opens .notIn, .test .isNull, .test .isNotNull, .openGroup, .close, .comma, .or, .and,
    .whereWord, .selectWord, .fromWord, .intersect]

/-- The list of words leaves none out. -/
theorem mem_all (word : Word) : word ∈ all := by
  cases word with
  | relation comparison => cases comparison <;> decide
  | opens membership => cases membership <;> decide
  | test nullTest => cases nullTest <;> decide
  | _ => decide

/-- No word starts with another one. -/
theorem apart_of_mem : ∀ first ∈ all, ∀ second ∈ all,
    first = second ∨ apart first.text second.text = true := by
  decide

/-- Only the word that a sub-select starts with is made of the letters of names. -/
theorem noName_of_mem : ∀ word ∈ all,
    word = .selectWord ∨ (word.text.toList.head?.any fun c => !startsIdentifier c) = true := by
  decide

/-- A sub-select, or a value, comes behind the word. -/
def introduces : Word → Bool
  | .opens _ | .intersect => true
  | _ => false

end Word

namespace Token

/-- A token may stand next to another one. A name is followed by a word that starts with a
blank or closes a parenthesis, and a sub-select starts where no name can stand. -/
def adjoins : Token → Token → Bool
  | .name _, .word next => startsClosing next.text
  | .name _, _ => false
  | .word before, .name _ => !before.introduces
  | .word before, .word .selectWord => before.introduces
  | .value _, .name _ | .value _, .word .selectWord => false
  | _, _ => true

/-- The marks of a token. -/
def read : Token → List Mark
  | .name letters => Sql.letters letters
  | .value scalar => [.inr scalar]
  | .word sign => Sql.letters sign.text

/-- The name of a token is plain, if it is a name. -/
def Plain : Token → Prop
  | .name letters => isIdentifier letters = true
  | _ => True

end Token

/-- Each of the tokens may stand next to the one before it. -/
def Legal (tokens : List Token) : Prop :=
  tokens.IsChain fun left right => left.adjoins right = true

/-- The marks of tokens. -/
def readTokens (tokens : List Token) : List Mark := tokens.flatMap Token.read

/-- The marks of tokens that have been turned into fragments are those of the tokens. -/
theorem marks_fragments (tokens : List Token) :
    marks (tokens.map Token.fragment) = readTokens tokens := by
  induction tokens with
  | nil => rfl
  | cons token rest ih =>
    cases token <;> simp [readTokens, Token.fragment, Token.read] <;> simpa [readTokens] using ih

/-- A text of plain names and words shows no placeholders but those of its values. -/
theorem worded_fragments {tokens : List Token} (plain : ∀ token ∈ tokens, token.Plain) :
    Worded (Lacks placeholder) (tokens.map Token.fragment) := by
  have ofWords : ∀ word ∈ Word.all, Lacks placeholder word.text := by
    unfold Lacks
    decide
  intro words inside
  obtain ⟨token, listed, shown⟩ := List.mem_map.mp inside
  cases token with
  | name letters =>
    cases shown
    exact foreign_placeholder.lacks_of_isIdentifier (plain _ listed)
  | value scalar => cases shown
  | word sign =>
    cases shown
    exact ofWords sign sign.mem_all

/-- A name ends where a token stands next to it that may do so. -/
theorem endsName_readTokens {letters : String} {rest : List Token}
    (legal : Legal (.name letters :: rest)) :
    EndsName (readTokens rest) := by
  cases rest with
  | nil =>
    intro c tail impossible
    cases impossible
  | cons next others =>
    obtain ⟨adjoins, _⟩ := List.isChain_cons_cons.mp legal
    cases next with
    | name _ | value _ => cases adjoins
    | word sign => exact endsName_letters adjoins _

/-- A name and a word are told from each other by their letters, or by what stands in
front of them. -/
theorem name_ne_sign {before : Token} {letters : String} {sign : Word} {rest rest' : List Mark}
    (plain : isIdentifier letters = true) (nameAdjoins : before.adjoins (.name letters) = true)
    (signAdjoins : before.adjoins (.word sign) = true) :
    Sql.letters letters ++ rest ≠ Sql.letters sign.text ++ rest' := by
  rcases sign.noName_of_mem sign.mem_all with rfl | noName
  · exfalso
    cases before with
    | name _ | value _ => cases nameAdjoins
    | word before =>
      simp only [Token.adjoins, Bool.not_eq_true'] at nameAdjoins signAdjoins
      simp [nameAdjoins] at signAdjoins
  · exact name_ne_word plain noName rest rest'

/-- A token has marks, of which the first one is a value only if the token is one. -/
theorem Token.exists_mark {token : Token} (plain : token.Plain) :
    ∃ mark more, token.read = mark :: more ∧
      ∀ scalar, mark = .inr scalar → token = .value scalar := by
  cases token with
  | name letters =>
    obtain ⟨first, others, spelled, _, _⟩ := isIdentifier_iff.mp plain
    exact ⟨.inl first, others.map Sum.inl, by simp [read, Sql.letters, spelled], by simp⟩
  | value scalar => exact ⟨.inr scalar, [], rfl, by simp⟩
  | word sign =>
    have someLetter : ∀ word ∈ Word.all, word.text.toList ≠ [] := by decide
    obtain ⟨first, others, spelled⟩ := List.exists_cons_of_ne_nil (someLetter sign sign.mem_all)
    exact ⟨.inl first, others.map Sum.inl, by simp [read, Sql.letters, spelled], by simp⟩

/-- A value is told from all other tokens. -/
theorem value_ne_token {token : Token} {scalar : Scalar} (plain : token.Plain)
    (other : token ≠ .value scalar) (rest rest' : List Mark) :
    .inr scalar :: rest ≠ token.read ++ rest' := by
  obtain ⟨mark, more, shown, ofValue⟩ := Token.exists_mark plain
  rw [shown]
  intro same
  exact other (ofValue scalar (List.cons.inj same).1.symm)

/-- The first of tokens that stand behind a common token is told by its marks. -/
theorem token_told {before first second : Token} {rest rest' : List Token}
    (legal : Legal (before :: first :: rest)) (legal' : Legal (before :: second :: rest'))
    (plain : first.Plain) (plain' : second.Plain)
    (same : first.read ++ readTokens rest = second.read ++ readTokens rest') :
    first = second ∧ readTokens rest = readTokens rest' := by
  obtain ⟨adjoins, behind⟩ := List.isChain_cons_cons.mp legal
  obtain ⟨adjoins', behind'⟩ := List.isChain_cons_cons.mp legal'
  cases first <;> cases second
  case name.name =>
    obtain ⟨rfl, sameRest⟩ := name_told plain plain' (endsName_readTokens behind)
      (endsName_readTokens behind') same
    exact ⟨rfl, sameRest⟩
  case value.value => simpa [Token.read] using same
  case word.word sign sign' =>
    rcases Word.apart_of_mem sign sign.mem_all sign' sign'.mem_all with rfl | areApart
    · exact ⟨rfl, List.append_cancel_left same⟩
    · exact absurd same (letters_append_ne areApart _ _)
  case name.word => exact absurd same (name_ne_sign plain adjoins adjoins')
  case word.name => exact absurd same.symm (name_ne_sign plain' adjoins' adjoins)
  case value.word | value.name => exact absurd same (value_ne_token plain' (by simp) _ _)
  case word.value | name.value => exact absurd same.symm (value_ne_token plain (by simp) _ _)

/-- Marks of tokens are missing only where there are no tokens. -/
theorem readTokens_cons_ne_nil {token : Token} (plain : token.Plain) (rest : List Token) :
    readTokens (token :: rest) ≠ [] := by
  obtain ⟨mark, more, shown, _⟩ := Token.exists_mark plain
  simp [readTokens, shown]

/-- Tokens that stand behind a common token are told by their marks. -/
theorem tokens_told {before : Token} {first second : List Token}
    (legal : Legal (before :: first)) (legal' : Legal (before :: second))
    (plain : ∀ token ∈ first, token.Plain) (plain' : ∀ token ∈ second, token.Plain)
    (same : readTokens first = readTokens second) : first = second := by
  induction first generalizing before second with
  | nil =>
    cases second with
    | nil => rfl
    | cons token rest =>
      exact absurd same.symm (readTokens_cons_ne_nil (plain' token List.mem_cons_self) rest)
  | cons token rest ih =>
    cases second with
    | nil => exact absurd same (readTokens_cons_ne_nil (plain token List.mem_cons_self) rest)
    | cons other others =>
      obtain ⟨tokenPlain, restPlain⟩ := List.forall_mem_cons.mp plain
      obtain ⟨otherPlain, othersPlain⟩ := List.forall_mem_cons.mp plain'
      obtain ⟨rfl, sameRest⟩ := token_told legal legal' tokenPlain otherPlain same
      rw [ih (List.isChain_cons_cons.mp legal).2 (List.isChain_cons_cons.mp legal').2 restPlain
        othersPlain sameRest]

/-- One more token may stand in front where the next one may stand behind it. -/
theorem Legal.cons {before next : Token} {rest : List Token}
    (adjoins : before.adjoins next = true) (legal : Legal (next :: rest)) :
    Legal (before :: next :: rest) :=
  List.isChain_cons_cons.mpr ⟨adjoins, legal⟩

/-- A token alone has no neighbour to mind. -/
theorem Legal.single (token : Token) : Legal [token] := List.isChain_singleton token

/-- A word that starts with a blank or closes a parenthesis may stand next to all tokens. -/
theorem Token.adjoins_of_closing (token : Token) {sign : Word}
    (closing : startsClosing sign.text = true) : token.adjoins (.word sign) = true := by
  cases token with
  | name _ => exact closing
  | value _ | word _ =>
    cases sign with
    | selectWord => exact absurd closing (by decide)
    | _ => rfl

/-- What stands behind a token goes on with such a word and with what stands behind the
word. -/
theorem Legal.around {before : Token} {first second : List Token} {sign : Word}
    (legal : Legal (before :: first)) (behind : Legal (.word sign :: second))
    (closing : startsClosing sign.text = true) :
    Legal (before :: (first ++ .word sign :: second)) := by
  apply List.IsChain.append legal behind
  intro left _ right isNext
  obtain rfl : .word sign = right := Option.some.inj isNext
  exact left.adjoins_of_closing closing

/-- A column is followed by its operator. -/
theorem Legal.operator {before sign : Word} {column : ColumnName} {rest : List Token}
    (noSelect : before.introduces = false) (behind : Legal (.word sign :: rest))
    (closing : startsClosing sign.text = true) :
    Legal (.word before :: .name column :: .word sign :: rest) := by
  have named : (Token.word before).adjoins (.name column) = true := by
    simp [Token.adjoins, noSelect]
  exact Legal.around (Legal.cons named (Legal.single _)) behind closing

/-- Values between commas may stand behind a word. -/
theorem legal_commaSeparated (before : Word) (values : List Scalar) :
    Legal (.word before :: commaSeparated values) := by
  fun_induction commaSeparated values generalizing before with
  | case1 => exact Legal.single _
  | case2 value => exact Legal.cons rfl (Legal.single _)
  | case3 value rest _ ih => exact Legal.cons rfl (Legal.cons rfl (ih .comma))

mutual

/-- What is joined by words stands where a name may stand. -/
theorem Disjunction.legal : ∀ (disjunction : Disjunction) {before : Word},
    before.introduces = false → Legal (.word before :: disjunction.tokens)
  | .single first, _, noSelect => Conjunction.legal first noSelect
  | .or first rest, _, noSelect =>
    (Conjunction.legal first noSelect).around (Disjunction.legal rest rfl) rfl

/-- Predicates that are joined stand where a name may stand. -/
theorem Conjunction.legal : ∀ (conjunction : Conjunction) {before : Word},
    before.introduces = false → Legal (.word before :: conjunction.tokens)
  | .single first, _, noSelect => Predicate.legal first noSelect
  | .and first rest, _, noSelect =>
    (Predicate.legal first noSelect).around (Conjunction.legal rest rfl) rfl

/-- A predicate stands where a name may stand, since it starts with one or with a parenthesis. -/
theorem Predicate.legal : ∀ (predicate : Predicate) {before : Word},
    before.introduces = false → Legal (.word before :: predicate.tokens)
  | .compare _ relation _, _, noSelect =>
    Legal.operator noSelect (Legal.cons rfl (Legal.single _)) (by cases relation <;> rfl)
  | .member _ test values, _, noSelect =>
    Legal.operator noSelect ((legal_commaSeparated _ values).around (Legal.single _) rfl)
      (by cases test <;> rfl)
  | .nullTest _ test, _, noSelect =>
    Legal.operator noSelect (Legal.single _) (by cases test <;> rfl)
  | .inSelects _ test selects, _, noSelect =>
    Legal.operator noSelect ((Intersection.legal selects rfl).around (Legal.single _) rfl)
      (by cases test <;> rfl)
  | .enclosed inner, _, _ =>
    Legal.cons rfl ((Disjunction.legal inner rfl).around (Legal.single _) rfl)

/-- Sub-selects stand where no name may stand. -/
theorem Intersection.legal : ∀ (intersection : Intersection) {before : Word},
    before.introduces = true → Legal (.word before :: intersection.tokens)
  | .single first, _, select => Selection.legal first select
  | .intersect first rest, _, select =>
    (Selection.legal first select).around (Intersection.legal rest rfl) rfl

/-- A sub-select stands behind the words that announce one. -/
theorem Selection.legal : ∀ (selection : Selection) {before : Word},
    before.introduces = true → Legal (.word before :: selection.tokens)
  | .all _ _, _, select =>
    Legal.cons select (Legal.operator rfl (Legal.cons rfl (Legal.single _)) rfl)
  | .such _ _ clause, _, select =>
    have source := Legal.operator rfl (Disjunction.legal clause rfl) rfl
    Legal.cons select (Legal.operator rfl source rfl)

end

/-- Clauses of plain names with the same text and the same arguments are the same
clause. -/
theorem Clause.eq_of_written {first second : Clause}
    (plain : ∀ letters, Token.name letters ∈ first.tokens → isIdentifier letters = true)
    (plain' : ∀ letters, Token.name letters ∈ second.tokens → isIdentifier letters = true)
    (same : written first.tokens = written second.tokens) : first = second := by
  have allPlain {clause : Clause} (named : ∀ letters, Token.name letters ∈ clause.tokens →
      isIdentifier letters = true) : ∀ token ∈ clause.tokens, token.Plain := by
    intro token listed
    cases token with
    | name letters => exact named letters listed
    | value _ | word _ => trivial
  have legal (clause : Clause) : Legal (.word .openGroup :: clause.tokens) := by
    cases clause with
    | none => exact Legal.single _
    | some disjunction => exact Legal.cons rfl (disjunction.legal rfl)
  have sameMarks := marks_eq_of_prepare (worded_fragments (allPlain plain))
    (worded_fragments (allPlain plain')) same
  rw [marks_fragments, marks_fragments] at sameMarks
  exact Clause.tokens_injective
    (tokens_told (legal first) (legal second) (allPlain plain) (allPlain plain') sameMarks)

end DomainSql.Sql
