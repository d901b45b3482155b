import DomainSql.Proofs.CompiledParts
import DomainSql.Proofs.Words

/-!
# Compiled text is plain

Whatever a request holds, nothing but plain names comes from it into the text of a
statement, and no list is left empty where SQL asks for an entry. With plain names
every character of the text is one of a few that cannot open a quotation, start a
comment or end a statement.
-/
namespace DomainSql

open Sql

namespace Sql

/-- The characters of a compiled text: those of plain names, the blank, the
placeholder, and those of the operators and lists. -/
def isPlainCharacter (c : Char) : Bool :=
  continuesIdentifier c || " ?(),=!<>*".toList.contains c

/-- A text of plain characters. -/
def PlainText (text : String) : Prop := ∀ c ∈ text.toList, isPlainCharacter c = true

/-- Everything that rendering itself puts into a text is plain. -/
theorem plainText_fixedWords : ∀ words ∈ fixedWords, PlainText words := by
  have all : (fixedWords.all fun words => words.toList.all isPlainCharacter) = true := by decide
  intro words listed
  exact List.all_eq_true.mp (List.all_eq_true.mp all words listed)

/-- Digits are plain. -/
theorem plainText_repr (number : Nat) : PlainText number.repr := by
  intro c inside
  simp [isPlainCharacter, continues_of_mem_repr inside]

/-- A plain name has plain characters. -/
theorem plainText_of_isIdentifier {name : String} (plain : isIdentifier name = true) :
    PlainText name := by
  intro c inside
  simp [isPlainCharacter, continues_of_mem plain inside]

/-- Fragments with plain texts have a plain text, whatever the values of their
places. -/
theorem plainText_prepare {fragments : List Fragment} (worded : Worded PlainText fragments) :
    PlainText (prepare fragments).sql :=
  forall_mem_sql (by decide) worded

end Sql

/-- Under a plain naming all statements of a compiled request have plain names, no
empty lists and a plain text. -/
theorem plain_of_compile {metadata : Metadata} {request : Request} {plan : Plan}
    (plain : metadata.naming.Plain)
    (compiled : (compile metadata request).outcome = .ok plan) :
    ∀ statement ∈ plan.work.statements,
      (∀ name ∈ statement.names, isIdentifier name = true) ∧ statement.Filled ∧
        PlainText statement.prepare.sql := by
  intro statement inside
  obtain ⟨named, filled⟩ := compile_sound plain.gives compiled statement inside
  have plainNames : ∀ name ∈ statement.names, PlainText name := by
    intro name listed
    exact plainText_of_isIdentifier (named name listed)
  have worded : Worded PlainText statement.render :=
    worded_statement plainText_fixedWords plainText_repr plainNames
  exact ⟨named, filled, plainText_prepare worded⟩

/-- A search by a text that tries to end the statement, behind a route. -/
def quotedSearch : Request where
  operation := some "query"
  domain := some "user"
  columns := some ["userName"]
  page := some { pageSize := some 20, sort := some "userName, desc; id" }
  filters := some [("nameOr", .mapping [
    ("userNameContain", .text "'; DELETE FROM t_user; --"), ("emailNull", .null)])]
  domainRoute := some {
    path := ["user", "role", "perm"]
    filters := [("roleQuery", .mapping [("levelIn", .array [.integer 1, .integer 2])])] }

/-- A search for a text with a quotation mark is compiled to plain texts, because the text is an
argument. -/
theorem plain_quotedSearch :
    ∃ plan, (compile {} quotedSearch).outcome = .ok plan ∧
      ∀ statement ∈ plan.work.statements,
        (∀ name ∈ statement.names, isIdentifier name = true) ∧ statement.Filled ∧
          PlainText statement.prepare.sql :=
  ⟨_, rfl, @plain_of_compile {} quotedSearch _ Naming.plain_default rfl⟩

end DomainSql
