import DomainSql.Proofs.CompiledParts
import DomainSql.Proofs.Precedence
import DomainSql.Proofs.Words

/-!
# Compiled conditions as clauses

Conditions that are joined by `AND` behind a keyword are a clause, and SQL reads in it
what the conditions mean. Two things see to that: a group of alternatives stands in
parentheses, so that the words around it cannot take it apart, and none of the lists that
are joined is empty, so that there is something between every two words.
-/
namespace DomainSql.Sql

namespace Truth

/-- One more truth is joined to what the others come to. -/
theorem any_cons (first : Truth) (rest : List Truth) :
    any (first :: rest) = any [first, any rest] := by
  rcases first with _ | _ | _ <;> by_cases someTrue : some true ∈ rest <;>
    by_cases someOpen : none ∈ rest <;> simp [any, someTrue, someOpen]

/-- One more truth is joined to what the others come to, also where all have to hold. -/
theorem all_cons (first : Truth) (rest : List Truth) :
    all (first :: rest) = all [first, all rest] := by
  rcases first with _ | _ | _ <;> by_cases someFalse : some false ∈ rest <;>
    by_cases someOpen : none ∈ rest <;> simp [all, someFalse, someOpen]

/-- A single alternative decides. -/
theorem any_singleton (truth : Truth) : any [truth] = truth := by
  rcases truth with _ | _ | _ <;> rfl

/-- A single condition decides. -/
theorem all_singleton (truth : Truth) : all [truth] = truth := by
  rcases truth with _ | _ | _ <;> rfl

end Truth

/-- Tokens show the same text as fragments, with the same values, and their names have a
property. -/
structure Wording (property : String → Prop) (tokens : List Token)
    (fragments : List Fragment) : Prop where
  written : written tokens = prepare fragments
  named : ∀ letters, Token.name letters ∈ tokens → property letters

namespace Wording
variable {property : String → Prop} {tokens tokens' : List Token}
  {fragments fragments' : List Fragment}

/-- Nothing is worded by nothing. -/
theorem nil : Wording property [] [] := ⟨rfl, by simp⟩

/-- Wordings may be put behind each other. The arguments keep their order, since a value is bound
where its placeholder stands. -/
theorem append (first : Wording property tokens fragments)
    (second : Wording property tokens' fragments') :
    Wording property (tokens ++ tokens') (fragments ++ fragments') := by
  obtain ⟨same, named⟩ := first
  obtain ⟨same', named'⟩ := second
  constructor
  · have sql := congrArg₂ (· ++ ·) (congrArg Prepared.sql same) (congrArg Prepared.sql same')
    have arguments := congrArg₂ (· ++ ·) (congrArg Prepared.arguments same)
      (congrArg Prepared.arguments same')
    simp only [Sql.written, ← sql_prepare_append, ← arguments_prepare_append,
      ← List.map_append] at sql arguments
    exact congrArg₂ Prepared.mk sql arguments
  · intro letters inside
    rcases List.mem_append.mp inside with inFirst | inSecond
    · exact named letters inFirst
    · exact named' letters inSecond

/-- A word is worded by its text. -/
theorem word (sign : Word) : Wording property [.word sign] [.text sign.text] :=
  ⟨rfl, by simp⟩

/-- A name is worded by its letters. -/
theorem name {letters : String} (named : property letters) :
    Wording property [.name letters] [.text letters] :=
  ⟨rfl, by simpa using named⟩

/-- A value is worded by its placeholder. -/
theorem value (scalar : Scalar) : Wording property [.value scalar] [.place scalar] :=
  ⟨rfl, by simp⟩

end Wording

/-- The keyword in front of conditions; without conditions there is none. -/
def whereToken (conditions : List Condition) : List Token :=
  if conditions.isEmpty then [] else [.word .whereWord]

mutual

/-- The tokens that a condition is rendered as. -/
def Condition.tokens : Condition → List Token
  | .compare column relation value => [.name column, .word (.relation relation), .value value]
  | .member column test values =>
    .name column :: .word (.opens test) :: (commaSeparated values ++ [.word .close])
  | .nullTest column test => [.name column, .word (.test test)]
  | .anyOf alternatives => .word .openGroup :: (joinedTokens .or alternatives ++ [.word .close])
  | .inSelects column selects =>
    .name column :: .word (.opens .isIn) :: (selectTokens selects ++ [.word .close])

/-- The tokens of conditions joined by a word. -/
def joinedTokens (sign : Word) : List Condition → List Token
  | [] => []
  | [condition] => condition.tokens
  | condition :: rest => condition.tokens ++ .word sign :: joinedTokens sign rest

/-- The tokens of a sub-select. -/
def SubSelect.tokens : SubSelect → List Token
  | .select column source conditions =>
    .word .selectWord :: .name column :: .word .fromWord :: .name source ::
      (whereToken conditions ++ joinedTokens .and conditions)

/-- The tokens of sub-selects of which the common ids are meant. -/
def selectTokens : List SubSelect → List Token
  | [] => []
  | [select] => select.tokens
  | select :: rest => select.tokens ++ .word .intersect :: selectTokens rest

end

/-- The tokens of conditions that all have to hold, behind their keyword. -/
def clauseTokens (conditions : List Condition) : List Token :=
  whereToken conditions ++ joinedTokens .and conditions

section
variable {property : String → Prop}

/-- A predicate is what SQL reads where a condition is rendered: it has the tokens of the
condition, they have its text, and the meaning is the same. -/
structure Predicate.Reads (property : String → Prop) (predicate : Predicate)
    (condition : Condition) : Prop where
  tokens : predicate.tokens = condition.tokens
  wording : Wording property condition.tokens condition.render
  truth : ∀ database tuple, predicate.truth database tuple = condition.truth database tuple

/-- A sub-select of the grammar is what SQL reads where a compiled one is rendered. -/
structure Selection.Reads (property : String → Prop) (selection : Selection)
    (select : SubSelect) : Prop where
  tokens : selection.tokens = select.tokens
  wording : Wording property select.tokens select.render
  values : ∀ database, selection.values database = select.values database

/-- Values between commas have the text of a rendered list. -/
theorem wording_commaSeparated (values : List Scalar) :
    Wording property (commaSeparated values)
      (separated ", " (values.map fun value => [.place value])) := by
  fun_induction commaSeparated values with
  | case1 => exact Wording.nil
  | case2 value => exact Wording.value value
  | case3 value rest notEmpty ih =>
    obtain ⟨second, others, rfl⟩ := List.exists_cons_of_ne_nil notEmpty
    exact ((Wording.value value).append (Wording.word .comma)).append ih

/-- Joined conditions have the text that is rendered for them. -/
theorem wording_joinedTokens {sign : Word} {conditions : List Condition}
    (each : ∀ condition ∈ conditions, Wording property condition.tokens condition.render) :
    Wording property (joinedTokens sign conditions) (renderConditions sign.text conditions) := by
  induction conditions with
  | nil => exact Wording.nil
  | cons condition rest ih =>
    obtain ⟨ofFirst, ofRest⟩ := List.forall_mem_cons.mp each
    cases rest with
    | nil => exact ofFirst
    | cons second others => exact ofFirst.append ((Wording.word sign).append (ih ofRest))

/-- A clause has the text that is rendered for its conditions. -/
theorem wording_clauseTokens {conditions : List Condition}
    (each : ∀ condition ∈ conditions, Wording property condition.tokens condition.render) :
    Wording property (clauseTokens conditions) (renderWhere conditions) := by
  have keyword : Wording property (whereToken conditions) (whereKeyword conditions) := by
    unfold whereToken whereKeyword
    split
    · exact Wording.nil
    · exact Wording.word .whereWord
  have joined : Wording property (joinedTokens .and conditions)
      (renderConditions " AND " conditions) := wording_joinedTokens each
  exact keyword.append joined

end

section
variable {α β : Type}

/-- A tree of the grammar has the tokens of a condition and means the same. -/
def ReadsAs (tokens : α → List Token) (truth : Database → α → Tuple → Truth) (tree : α)
    (condition : Condition) : Prop :=
  tokens tree = condition.tokens ∧
    ∀ database tuple, truth database tree tuple = condition.truth database tuple

/-- What a list of the grammar means is combined from the truths of its parts. -/
structure Connective (sign : Word) (part : α → List Token) (list : β → List Token)
    (single : α → β) (join : α → β → β) (combine : List Truth → Truth)
    (partTruth : Database → α → Tuple → Truth) (truth : Database → β → Tuple → Truth) : Prop
    extends Joined (.word sign) part list single join where
  combine_one : ∀ first, combine [first] = first
  combine_cons : ∀ first rest, combine (first :: rest) = combine [first, combine rest]
  truth_single : ∀ database first tuple,
    truth database (single first) tuple = partTruth database first tuple
  truth_join : ∀ database first rest tuple, truth database (join first rest) tuple =
    combine [partTruth database first tuple, truth database rest tuple]

/-- Conditions that are joined by a word are read as a list of as many parts. -/
theorem Connective.exists_list {sign : Word} {part : α → List Token} {list : β → List Token}
    {single : α → β} {join : α → β → β} {combine : List Truth → Truth}
    {partTruth : Database → α → Tuple → Truth} {truth : Database → β → Tuple → Truth}
    (connective : Connective sign part list single join combine partTruth truth)
    {conditions : List Condition} (present : conditions ≠ [])
    (each : ∀ condition ∈ conditions, ∃ tree, ReadsAs part partTruth tree condition) :
    ∃ joined, list joined = joinedTokens sign conditions ∧ ∀ database tuple,
      truth database joined tuple = combine (truths database conditions tuple) := by
  induction conditions with
  | nil => exact absurd rfl present
  | cons condition rest ih =>
    obtain ⟨⟨first, tokens, meaning⟩, ofRest⟩ := List.forall_mem_cons.mp each
    cases rest with
    | nil =>
      refine ⟨single first, (connective.marks_single first).trans tokens, fun database tuple => ?_⟩
      rw [connective.truth_single, meaning, truths, truths, connective.combine_one]
    | cons second others =>
      obtain ⟨joined, restTokens, restMeaning⟩ := ih (List.cons_ne_nil _ _) ofRest
      refine ⟨join first joined, ?_, fun database tuple => ?_⟩
      · rw [connective.marks_join, tokens, restTokens]
        rfl
      · rw [connective.truth_join, meaning, restMeaning]
        exact (connective.combine_cons _ _).symm

end

/-- Of conjunctions with `OR` between them one has to be true. -/
theorem Disjunction.connective : Connective .or Conjunction.tokens Disjunction.tokens .single .or
    Truth.any Conjunction.truth Disjunction.truth where
  toJoined := Disjunction.joined
  combine_one := Truth.any_singleton
  combine_cons := Truth.any_cons
  truth_single _ _ _ := rfl
  truth_join _ _ _ _ := rfl

/-- Of predicates with `AND` between them all have to be true. -/
theorem Conjunction.connective : Connective .and Predicate.tokens Conjunction.tokens .single .and
    Truth.all Predicate.truth Conjunction.truth where
  toJoined := Conjunction.joined
  combine_one := Truth.all_singleton
  combine_cons := Truth.all_cons
  truth_single _ _ _ := rfl
  truth_join _ _ _ _ := rfl

section
variable {property : String → Prop}

/-- Conditions behind their keyword are read as a clause. -/
theorem exists_clause_of {conditions : List Condition}
    (each : ∀ condition ∈ conditions, ∃ predicate : Predicate,
      predicate.Reads property condition) :
    ∃ clause : Clause, clause.tokens = clauseTokens conditions ∧
      ∀ database tuple, (clause.Keeps database tuple ↔
        Truth.all (truths database conditions tuple) = some true) := by
  by_cases present : conditions = []
  · subst present
    exact ⟨none, rfl, fun _ _ => by simp [Clause.Keeps, truths, Truth.all]⟩
  · have predicates : ∀ condition ∈ conditions, ∃ predicate,
        ReadsAs Predicate.tokens Predicate.truth predicate condition := by
      intro condition listed
      obtain ⟨predicate, reads⟩ := each condition listed
      exact ⟨predicate, reads.tokens, reads.truth⟩
    obtain ⟨conjunction, tokens, truth⟩ := Conjunction.connective.exists_list present predicates
    have keyword : whereToken conditions = [.word .whereWord] := by
      simp [whereToken, present]
    refine ⟨some (.single conjunction), ?_, fun database tuple => ?_⟩
    · rw [clauseTokens, keyword, ← tokens]
      rfl
    · simp [Clause.Keeps, Disjunction.truth, truth]

/-- A sub-select is read as one, with its conditions as its clause. -/
theorem exists_selection {select : SubSelect}
    (named : ∀ name ∈ select.names, property name)
    (each : ∀ condition ∈ select.conditions, ∃ predicate : Predicate,
      predicate.Reads property condition) :
    ∃ selection : Selection, selection.Reads property select := by
  obtain ⟨column, source, conditions⟩ := select
  obtain ⟨columnNamed, sourceNamed⟩ : property column ∧ property source := by
    simpa [SubSelect.names] using named
  change ∀ condition ∈ conditions, _ at each
  have wording : Wording property (SubSelect.select column source conditions).tokens
      (SubSelect.select column source conditions).render := by
    rw [SubSelect.render_eq]
    have clause : Wording property (clauseTokens conditions) (renderWhere conditions) :=
      wording_clauseTokens fun condition listed => (each condition listed).choose_spec.wording
    exact (Wording.word .selectWord).append ((Wording.name columnNamed).append
      ((Wording.word .fromWord).append ((Wording.name sourceNamed).append clause)))
  obtain ⟨clause, tokens, keeps⟩ := exists_clause_of each
  cases clause with
  | none =>
    refine ⟨.all column source, ?_, wording, fun database => ?_⟩
    · rw [SubSelect.tokens, ← clauseTokens, ← tokens]
      rfl
    · have everyRow (tuple : Tuple) : Truth.all (truths database conditions tuple) = some true :=
        (keeps database tuple).mp (by simp [Clause.Keeps])
      simp [Selection.values, SubSelect.values, everyRow]
  | some disjunction =>
    refine ⟨.such column source disjunction, ?_, wording, fun database => ?_⟩
    · rw [SubSelect.tokens, ← clauseTokens, ← tokens]
      rfl
    · have same (tuple : Tuple) : disjunction.truth database tuple = some true ↔
          Truth.all (truths database conditions tuple) = some true := by
        simpa [Clause.Keeps] using keeps database tuple
      simp only [Selection.values, SubSelect.values, same]

/-- Sub-selects whose common ids are meant are read as an intersection of as many
parts. -/
theorem exists_intersection {selects : List SubSelect} (present : selects ≠ [])
    (each : ∀ select ∈ selects, ∃ selection : Selection, selection.Reads property select) :
    ∃ intersection : Intersection, intersection.tokens = selectTokens selects ∧
      Wording property (selectTokens selects) (renderSelects selects) ∧
      ∀ database, intersection.lists database = selected database selects := by
  induction selects with
  | nil => exact absurd rfl present
  | cons select rest ih =>
    obtain ⟨⟨selection, reads⟩, ofRest⟩ := List.forall_mem_cons.mp each
    cases rest with
    | nil =>
      refine ⟨.single selection, reads.tokens, reads.wording, fun database => ?_⟩
      rw [Intersection.lists, reads.values, selected, selected]
    | cons second others =>
      obtain ⟨intersection, tokens, wording, lists⟩ := ih (List.cons_ne_nil _ _) ofRest
      refine ⟨.intersect selection intersection, ?_,
        reads.wording.append ((Wording.word .intersect).append wording), fun database => ?_⟩
      · rw [Intersection.tokens, reads.tokens, tokens]
        rfl
      · rw [Intersection.lists, reads.values, lists]
        rfl

/-- Alternatives that are read one by one are read as a group in parentheses. -/
theorem exists_group {alternatives : List Condition} (present : alternatives ≠ [])
    (each : ∀ condition ∈ alternatives, ∃ predicate : Predicate,
      predicate.Reads property condition) :
    ∃ predicate : Predicate, predicate.Reads property (.anyOf alternatives) := by
  have singles : ∀ condition ∈ alternatives, ∃ conjunction,
      ReadsAs Conjunction.tokens Conjunction.truth conjunction condition := by
    intro condition listed
    obtain ⟨predicate, reads⟩ := each condition listed
    exact ⟨.single predicate, reads.tokens, reads.truth⟩
  obtain ⟨disjunction, tokens, truth⟩ := Disjunction.connective.exists_list present singles
  have wording : Wording property (joinedTokens .or alternatives)
      (renderConditions " OR " alternatives) :=
    wording_joinedTokens fun condition listed => (each condition listed).choose_spec.wording
  refine ⟨.enclosed disjunction, ?_, ?_, fun database tuple => ?_⟩
  · rw [Predicate.tokens, tokens, Condition.tokens]
  · exact (Wording.word .openGroup).append (wording.append (Wording.word .close))
  · rw [Predicate.truth, truth, Condition.truth]

/-- Sub-selects that are read one by one are read as what a column is tested against. -/
theorem exists_test {column : ColumnName} {selects : List SubSelect} (named : property column)
    (present : selects ≠ [])
    (each : ∀ select ∈ selects, ∃ selection : Selection, selection.Reads property select) :
    ∃ predicate : Predicate, predicate.Reads property (.inSelects column selects) := by
  obtain ⟨intersection, tokens, wording, lists⟩ := exists_intersection present each
  refine ⟨.inSelects column .isIn intersection, ?_, ?_, fun database tuple => ?_⟩
  · rw [Predicate.tokens, tokens, Condition.tokens]
  · exact (Wording.name named).append ((Wording.word (.opens .isIn)).append
      (wording.append (Wording.word .close)))
  · rw [Predicate.truth, lists, Condition.truth]

/-- A sound condition is read as a predicate. The induction follows the nesting of groups
and sub-selects. -/
theorem exists_predicate {condition : Condition} (sound : condition.Sound property) :
    ∃ predicate : Predicate, predicate.Reads property condition := by
  induction condition with
  | compare column relation value =>
    have named := Condition.sound_compare.mp sound
    exact ⟨.compare column relation value, rfl, (Wording.name named).append
      ((Wording.word (.relation relation)).append (Wording.value value)), fun _ _ => rfl⟩
  | member column test values =>
    obtain ⟨named, _⟩ := Condition.sound_member.mp sound
    have opening : Wording property [.word (.opens test)] [.text test.keyword, .text "("] :=
      ⟨by cases test <;> rfl, by simp⟩
    exact ⟨.member column test values, rfl, (Wording.name named).append (opening.append
      ((wording_commaSeparated values).append (Wording.word .close))),
      fun _ _ => by cases test <;> rfl⟩
  | nullTest column test =>
    have named := Condition.sound_nullTest.mp sound
    exact ⟨.nullTest column test, rfl, (Wording.name named).append (Wording.word (.test test)),
      fun _ _ => by cases test <;> rfl⟩
  | anyOf alternatives each =>
    obtain ⟨present, sounds⟩ := Condition.sound_anyOf.mp sound
    exact exists_group present fun condition listed =>
      each condition listed (sounds condition listed)
  | inSelects column selects each =>
    obtain ⟨named, present, sounds⟩ := Condition.sound_inSelects.mp sound
    refine exists_test named present fun select listed => ?_
    obtain ⟨selectNamed, conditionsSound⟩ := sounds select listed
    exact exists_selection selectNamed fun condition inside =>
      each select listed condition inside (conditionsSound condition inside)

/-- Sound conditions are read as a clause that keeps the rows of which all of them
hold. -/
theorem exists_clause {conditions : List Condition}
    (sound : ∀ condition ∈ conditions, condition.Sound property) :
    ∃ clause : Clause, clause.tokens = clauseTokens conditions ∧
      Wording property (clauseTokens conditions) (renderWhere conditions) ∧
      ∀ database tuple, (clause.Keeps database tuple ↔
        ∀ condition ∈ conditions, condition.Holds database tuple) := by
  have predicates : ∀ condition ∈ conditions, ∃ predicate : Predicate,
      predicate.Reads property condition :=
    fun condition listed => exists_predicate (sound condition listed)
  obtain ⟨clause, tokens, keeps⟩ := exists_clause_of predicates
  have wording := wording_clauseTokens fun condition listed =>
    (predicates condition listed).choose_spec.wording
  exact ⟨clause, tokens, wording, fun database tuple => (keeps database tuple).trans all_truths⟩

/-- Only where there are no conditions there is no clause. -/
theorem clauseTokens_eq_nil_iff {conditions : List Condition} :
    clauseTokens conditions = [] ↔ conditions = [] := by
  cases conditions with
  | nil => exact iff_of_true rfl rfl
  | cons condition rest => simp [clauseTokens, whereToken]

end

end DomainSql.Sql
