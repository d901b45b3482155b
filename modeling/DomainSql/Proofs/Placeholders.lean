import DomainSql.Proofs.AbsentCharacters
import DomainSql.Proofs.Spelling

/-!
# Placeholders and their arguments

The text of a statement and its arguments are put together again by cutting the
text at its placeholders and writing one argument into each gap. As long as no name
brings a placeholder into the text, this gives the statement with every value in
the place where it belongs, and no gap and no argument is left over.

Names without placeholders are all that is asked of a statement, and a compiled
statement has them when the naming has.
-/
namespace DomainSql

open Sql

namespace Sql

/-- Pieces of a text with the arguments written between them. -/
def interleaved (print : Scalar → String) : List (List Char) → List Scalar → List Char
  | [], _ => []
  | piece :: pieces, [] => piece ++ interleaved print pieces []
  | piece :: pieces, value :: values =>
    piece ++ (print value).toList ++ interleaved print pieces values

/-- The text of a statement, cut at its placeholders, with its arguments in the
gaps. -/
def Prepared.filled (print : Scalar → String) (prepared : Prepared) : String :=
  String.ofList
    (interleaved print (prepared.sql.toList.splitOn placeholder) prepared.arguments)

/-- Text and arguments belong together and say what has been written with its values
in place. -/
structure Prepared.Writes (prepared : Prepared) (spelled : (Scalar → String) → String) :
    Prop where
  /-- There is one argument for each placeholder. -/
  counted : prepared.placeholders = prepared.arguments.length
  /-- The arguments in the gaps of the text give what has been written. -/
  filled : ∀ print, prepared.filled print = spelled print

/-- A text without placeholders goes to the first piece of what follows it. -/
theorem splitOn_append {words rest : List Char} (absent : placeholder ∉ words) :
    (words ++ rest).splitOn placeholder =
      (rest.splitOn placeholder).modifyHead (words ++ ·) := by
  induction words with
  | nil =>
    obtain ⟨piece, pieces, cut⟩ :=
      List.exists_cons_of_ne_nil (List.splitOn_ne_nil placeholder rest)
    simp [cut]
  | cons first others ih =>
    obtain ⟨apart, ofOthers⟩ : placeholder ≠ first ∧ placeholder ∉ others := by
      simpa using absent
    rw [List.cons_append, List.splitOn_cons_eq_if_modifyHead, ih ofOthers]
    have noPlace : (first == placeholder) = false := by simpa using apart.symm
    simp only [noPlace, Bool.false_eq_true, if_false]
    cases rest.splitOn placeholder <;> simp

/-- Words in front of the first piece stay in front of the whole. -/
theorem interleaved_modifyHead {print : Scalar → String} {words : List Char}
    {pieces : List (List Char)} {values : List Scalar} (present : pieces ≠ []) :
    interleaved print (pieces.modifyHead (words ++ ·)) values =
      words ++ interleaved print pieces values := by
  obtain ⟨piece, others, rfl⟩ := List.exists_cons_of_ne_nil present
  cases values <;> simp [interleaved]

/-- Fragments whose texts have no placeholders say what they spell. The induction
adds a fragment in front: a text goes to the first piece, and a place cuts an empty
piece off and takes the first argument. -/
theorem writes_spell {fragments : List Fragment} (worded : Worded (Lacks placeholder) fragments) :
    (prepare fragments).Writes fun print => spell print fragments := by
  induction fragments with
  | nil =>
    constructor
    · rfl
    · intro print
      rfl
  | cons fragment rest ih =>
    have written := ih fun words inside => worded words (List.mem_cons_of_mem _ inside)
    obtain ⟨counted, filled⟩ := written
    simp only [Prepared.placeholders] at counted
    simp only [Prepared.filled] at filled
    cases fragment with
    | text words =>
      have absent : placeholder ∉ words.toList := worded words List.mem_cons_self
      constructor
      · rw [Prepared.placeholders, toList_sql_text, arguments_text, List.count_append,
          List.count_eq_zero_of_not_mem absent, counted, Nat.zero_add]
      · intro print
        rw [Prepared.filled, toList_sql_text, arguments_text, splitOn_append absent,
          interleaved_modifyHead (List.splitOn_ne_nil _ _), spell_text, ← filled print]
        simp
    | place value =>
      constructor
      · rw [Prepared.placeholders, toList_sql_place, arguments_place, List.count_cons_self,
          counted, List.length_cons]
      · intro print
        rw [Prepared.filled, toList_sql_place, arguments_place,
          List.splitOn_cons_eq_if_modifyHead, spell_place, ← filled print]
        simp [interleaved]

/-- Rendering itself puts no placeholder into a text. -/
theorem noPlaceholder_fixedWords : ∀ words ∈ fixedWords, Lacks placeholder words := by
  unfold Lacks
  decide

/-- The placeholder is neither part of plain names nor of the places of templates. -/
theorem foreign_placeholder : Foreign placeholder := ⟨rfl, by decide, by decide⟩

end Sql

/-- Text and arguments belong together in every statement of a compiled plan, and in
every statement and part of a statement whose names have no placeholders. -/
theorem prepared_writes :
    (∀ (metadata : Metadata) (request : Request) (plan : Plan), metadata.naming.Lacks placeholder →
      (compile metadata request).outcome = .ok plan →
      ∀ statement ∈ plan.work.statements,
        statement.prepare.Writes fun print => statement.spelled print) ∧
    (∀ statement : Statement, (∀ name ∈ statement.names, Lacks placeholder name) →
      statement.prepare.Writes fun print => statement.spelled print) ∧
    (∀ conditions : List Condition, (∀ name ∈ namesOf conditions, Lacks placeholder name) →
      (prepare (renderWhere conditions)).Writes fun print => spelledWhere print conditions) ∧
    (∀ condition : Condition,
      (∀ part ∈ condition.parts, ∀ name ∈ part.names, Lacks placeholder name) →
      (prepare condition.render).Writes fun print => condition.spelled print) ∧
    ∀ selects : List SubSelect,
      (∀ select ∈ selects, ∀ name ∈ select.names, Lacks placeholder name) →
      (∀ part ∈ partsOfSelects selects, ∀ name ∈ part.names, Lacks placeholder name) →
      (prepare (renderSelects selects)).Writes fun print =>
        " INTERSECT ".intercalate (spelledSelects print selects) := by
  have ofStatement (statement : Statement)
      (named : ∀ name ∈ statement.names, Lacks placeholder name) :
      statement.prepare.Writes fun print => statement.spelled print := by
    have written := writes_spell
      (worded_statement noPlaceholder_fixedWords foreign_placeholder.lacks_repr named)
    rw [Statement.prepare]
    simpa only [spell_statement] using written
  refine ⟨?_, ofStatement, ?_, ?_, ?_⟩
  · intro metadata request plan lacks compiled statement inside
    exact ofStatement statement
      (compile_sound (lacks.gives foreign_placeholder) compiled statement inside).1
  · intro conditions named
    have written := writes_spell (worded_where noPlaceholder_fixedWords named)
    simpa only [spell_where] using written
  · intro condition named
    have written := writes_spell (worded_condition noPlaceholder_fixedWords condition named)
    simpa only [spell_condition] using written
  · intro selects own named
    have each : ∀ select ∈ selects, ∀ condition ∈ select.conditions,
        Worded (Lacks placeholder) condition.render := by
      intro select inside condition inSelect
      apply worded_condition noPlaceholder_fixedWords
      intro part inPart
      apply named part
      exact mem_partsOfSelects.mpr
        ⟨select, inside, mem_partsOf.mpr ⟨condition, inSelect, inPart⟩⟩
    have written := writes_spell (worded_selects noPlaceholder_fixedWords own each)
    simpa only [spell_selects] using written

/-- An insertion of values that look like placeholders. -/
def markedRows : Request where
  operation := some "insert"
  domain := some "note"
  data := some [[("text", .text "why?"), ("rank", .integer 1)],
    [("rank", .integer 2), ("text", .text "?")]]

/-- A sub-select under two alternatives. -/
def markedSelects : List SubSelect :=
  [.select "note_id" "t_mark" [.anyOf [.compare "text" .like (.text "%?%"),
    .nullTest "text" .isNull]]]

/-- A statement, a clause and sub-selects whose values hold question marks themselves: only the
places of values are filled. -/
theorem markedRows_writes :
    (∃ plan, (compile {} markedRows).outcome = .ok plan ∧ ∀ statement ∈ plan.work.statements,
      statement.prepare.Writes fun print => statement.spelled print) ∧
    (Statement.delete ⟨"t_note", [.inSelects "id" markedSelects]⟩).prepare.Writes
      (fun print => (Statement.delete ⟨"t_note", [.inSelects "id" markedSelects]⟩).spelled print) ∧
    (prepare (renderWhere [.inSelects "id" markedSelects])).Writes
      (fun print => spelledWhere print [.inSelects "id" markedSelects]) ∧
    (prepare (Condition.inSelects "id" markedSelects).render).Writes
      (fun print => (Condition.inSelects "id" markedSelects).spelled print) ∧
    (prepare (renderSelects markedSelects)).Writes fun print =>
      " INTERSECT ".intercalate (spelledSelects print markedSelects) := by
  obtain ⟨ofPlan, ofStatement, ofWhere, ofCondition, ofSelects⟩ := prepared_writes
  refine ⟨⟨_, rfl, ofPlan {} markedRows _ ?_ rfl⟩, ofStatement _ ?_, ofWhere _ ?_,
    ofCondition _ ?_, ofSelects _ ?_ ?_⟩
  · exact ⟨by unfold Lacks; decide, by unfold Lacks; decide, by unfold Lacks; decide,
      by unfold Lacks; decide⟩
  all_goals
    unfold Lacks
    decide

end DomainSql
