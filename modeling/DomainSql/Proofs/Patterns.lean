import DomainSql.Proofs.EntryMeaning
import DomainSql.Proofs.ValueFree
import Mathlib.Data.List.Infix

/-!
# What patterns match

In a pattern a percent sign stands for any run of characters and an underscore for any one
of them, and nothing takes that away from them. The text of a filter is put into its pattern
as it is. As long as it has neither of the two signs, the pattern asks for the text itself:
somewhere, in front, or at the end. A text with one of them is matched by its disguise, in
which every such sign is replaced by a letter, and its disguise does not have it anywhere.
-/
namespace DomainSql

open Sql

namespace Sql

/-- A character of a pattern stands for others. -/
def StandsForOthers (sign : Char) : Prop :=
  sign = '%' ∨ sign = '_'

/-- The two characters are told from the others by comparing. -/
instance (sign : Char) : Decidable (StandsForOthers sign) :=
  inferInstanceAs (Decidable (_ ∨ _))

/-- A text is matched by a pattern as a whole. -/
def matched : List Char → List Char → Bool
  | [], text => text.isEmpty
  | sign :: pattern, text =>
    if sign = '%' then text.tails.any (matched pattern)
    else
      match text with
      | [] => false
      | letter :: rest => (sign = '_' || sign = letter) && matched pattern rest

/-- The database matches texts by patterns in this way. What it does with other values is its
own business. -/
def Database.ReadsPatterns (database : Database) : Prop :=
  ∀ text pattern : String,
    database.like (.text text) (.text pattern) = matched pattern.toList text.toList

/-- A database in which values have the usual order and texts are matched by patterns. -/
def Database.matching (rows : TableName → List Tuple) : Database :=
  .usual rows fun
    | .text text, .text pattern => matched pattern.toList text.toList
    | _, _ => false

/-- Such a database does read patterns in this way. -/
theorem Database.matching_readsPatterns (rows : TableName → List Tuple) :
    (Database.matching rows).ReadsPatterns :=
  fun _ _ => rfl

section
variable {pattern word text rest : List Char}

/-- A percent sign takes a part of the text, and the rest is matched by the rest of the pattern. -/
theorem matched_percent_iff :
    matched ('%' :: pattern) text ↔ ∃ rest, rest <:+ text ∧ matched pattern rest := by
  simp only [matched, if_true, List.any_eq_true, List.mem_tails]

/-- A percent sign takes whatever stands in front of a match. -/
theorem matched_percent_append (front : List Char) (behind : matched pattern rest) :
    matched ('%' :: pattern) (front ++ rest) :=
  matched_percent_iff.mpr ⟨rest, List.suffix_append front rest, behind⟩

/-- A percent sign at the end takes whatever is left. -/
theorem matched_last_percent (text : List Char) : matched ['%'] text :=
  matched_percent_iff.mpr ⟨[], List.nil_suffix, rfl⟩

/-- A sign for one character takes it, whether it is a letter or an underscore. -/
theorem matched_one_iff {sign letter : Char} (one : sign ≠ '%') :
    matched (sign :: pattern) (letter :: rest) ↔
      (sign = '_' ∨ sign = letter) ∧ matched pattern rest := by
  simp only [matched, if_neg one, Bool.and_eq_true, Bool.or_eq_true, decide_eq_true_eq]

/-- A plain word in a pattern stands for itself. -/
theorem matched_append_iff (plain : ∀ sign ∈ word, ¬ StandsForOthers sign) :
    matched (word ++ pattern) text ↔ ∃ rest, text = word ++ rest ∧ matched pattern rest := by
  induction word generalizing text with
  | nil =>
    constructor
    · intro found
      exact ⟨text, rfl, found⟩
    · rintro ⟨rest, rfl, found⟩
      exact found
  | cons sign word ih =>
    obtain ⟨plainSign, plainWord⟩ := List.forall_mem_cons.mp plain
    obtain ⟨noPercent, noUnderscore⟩ := not_or.mp plainSign
    cases text with
    | nil => simp [matched, noPercent]
    | cons letter letters =>
      rw [List.cons_append, matched_one_iff noPercent, ih plainWord]
      constructor
      · rintro ⟨underscore | same, rest, split, found⟩
        · exact absurd underscore noUnderscore
        · exact ⟨rest, by rw [same, split, List.cons_append], found⟩
      · rintro ⟨rest, split, found⟩
        obtain ⟨same, splitBehind⟩ := List.cons.inj split
        exact ⟨.inr same.symm, rest, splitBehind, found⟩

/-- A plain word as a pattern is matched by itself alone. -/
theorem matched_word_iff (plain : ∀ sign ∈ word, ¬ StandsForOthers sign) :
    matched word text ↔ text = word := by
  have whole : matched (word ++ []) text ↔ ∃ rest, text = word ++ rest ∧ matched [] rest :=
    matched_append_iff plain
  rw [List.append_nil] at whole
  rw [whole]
  constructor
  · rintro ⟨rest, split, nothing⟩
    rw [split, List.isEmpty_iff.mp nothing, List.append_nil]
  · rintro rfl
    exact ⟨[], (List.append_nil _).symm, rfl⟩

/-- A plain word with a percent sign behind it is matched by the texts that start with it. -/
theorem matched_word_percent_iff (plain : ∀ sign ∈ word, ¬ StandsForOthers sign) :
    matched (word ++ ['%']) text ↔ word <+: text := by
  rw [matched_append_iff plain]
  constructor
  · rintro ⟨rest, split, _⟩
    exact ⟨rest, split.symm⟩
  · rintro ⟨rest, split⟩
    exact ⟨rest, split.symm, matched_last_percent rest⟩

/-- A word with a letter in place of every sign that stands for others. -/
def disguise (word : List Char) : List Char :=
  word.map fun sign => if StandsForOthers sign then 'x' else sign

/-- The disguise of a word has no sign that stands for others. -/
theorem not_standsForOthers_of_mem_disguise {letter : Char} (shown : letter ∈ disguise word) :
    ¬ StandsForOthers letter := by
  obtain ⟨sign, _, rfl⟩ := List.mem_map.mp shown
  split
  · decide
  · assumption

/-- A word in a pattern is matched by its disguise. -/
theorem matched_disguise (behind : matched pattern rest) :
    matched (word ++ pattern) (disguise word ++ rest) := by
  induction word with
  | nil => exact behind
  | cons sign word ih =>
    unfold disguise
    rw [List.map_cons, List.cons_append, List.cons_append]
    by_cases percent : sign = '%'
    · rw [percent]
      exact matched_percent_append ['x'] ih
    · rw [matched_one_iff percent]
      refine ⟨?_, ih⟩
      by_cases stands : StandsForOthers sign
      · exact .inl (stands.resolve_left percent)
      · exact .inr (if_neg stands).symm

end

end Sql

namespace Wildcards

/-- A word is found in a text: somewhere, in front, or at the end. -/
def Finds : Wildcards → List Char → List Char → Prop
  | both, word, text => word <:+: text
  | trailing, word, text => word <+: text
  | leading, word, text => word <:+ text

variable {wildcards : Wildcards} {word : String}

/-- A search for a text anywhere has percent signs on both sides of it. -/
@[simp]
theorem toList_around_both : (both.around word).toList = '%' :: (word.toList ++ ['%']) := by
  rw [around, String.toList_append, String.toList_append]
  rfl

/-- A search for a start has its percent sign behind the text. -/
@[simp]
theorem toList_around_trailing : (trailing.around word).toList = word.toList ++ ['%'] := by
  rw [around, String.toList_append]
  rfl

/-- A search for an end has its percent sign in front of the text. -/
@[simp]
theorem toList_around_leading : (leading.around word).toList = '%' :: word.toList := by
  rw [around, String.toList_append]
  rfl

/-- The pattern around a plain word is matched by the texts in which the word is found. -/
theorem matched_around_iff {text : List Char}
    (plain : ∀ sign ∈ word.toList, ¬ StandsForOthers sign) :
    matched (wildcards.around word).toList text ↔ wildcards.Finds word.toList text := by
  cases wildcards with
  | both =>
    rw [toList_around_both, matched_percent_iff, Finds, List.infix_iff_prefix_suffix]
    simp only [matched_word_percent_iff plain, and_comm]
  | trailing =>
    rw [toList_around_trailing, matched_word_percent_iff plain, Finds]
  | leading =>
    rw [toList_around_leading, matched_percent_iff, Finds]
    simp only [matched_word_iff plain, exists_eq_right]

/-- The pattern around a word is matched by the disguise of the word. -/
theorem matched_around_disguise :
    matched (wildcards.around word).toList (disguise word.toList) := by
  have inFront : matched (word.toList ++ ['%']) (disguise word.toList ++ []) :=
    matched_disguise (matched_last_percent [])
  have whole : matched (word.toList ++ []) (disguise word.toList ++ []) := matched_disguise rfl
  rw [List.append_nil] at inFront
  rw [List.append_nil, List.append_nil] at whole
  cases wildcards with
  | both =>
    rw [toList_around_both]
    exact matched_percent_append [] inFront
  | trailing =>
    rw [toList_around_trailing]
    exact inFront
  | leading =>
    rw [toList_around_leading]
    exact matched_percent_append [] whole

/-- What is found is part of the text. -/
theorem Finds.sublist {word text : List Char} (found : wildcards.Finds word text) :
    word.Sublist text := by
  cases wildcards with
  | both => exact List.IsInfix.sublist found
  | trailing => exact List.IsPrefix.sublist found
  | leading => exact List.IsSuffix.sublist found

/-- A word with a sign that stands for others is not found in its disguise, which is as long
as the word and does not have the sign. -/
theorem not_finds_disguise {word : List Char} {sign : Char} (inside : sign ∈ word)
    (stands : StandsForOthers sign) : ¬ wildcards.Finds word (disguise word) := by
  intro found
  have same : word = disguise word := found.sublist.eq_of_length (List.length_map _).symm
  rw [same] at inside
  exact not_standsForOthers_of_mem_disguise inside stands

end Wildcards

/-- What an operator that searches texts asks of a text and a word in it. -/
inductive Operator.AsksText : Operator → (List Char → List Char → Prop) → Prop
  | contain : AsksText .contain fun word text => word <:+: text
  | start : AsksText .start fun word text => word <+: text
  | end_ : AsksText .end_ fun word text => word <:+ text
  | notLike : AsksText .notLike fun word text => ¬ word <:+: text

section
variable {database : Database} {operator : Operator} {test : List Char → List Char → Prop}
variable {scalar : Scalar} {word : String}

/-- A search is true of the texts that its pattern is matched by. -/
theorem searches_like_iff (reads : database.ReadsPatterns) {text : String}
    {wildcards : Wildcards} (searched : searchText? scalar = some word) :
    database.Searches (.text text) .like wildcards (.scalar scalar) ↔
      matched (wildcards.around word).toList text.toList := by
  simp [Database.Searches, searched, Database.compared, Database.relates, reads text]

/-- A search for what is not like a text finds the texts that its pattern does not match. -/
theorem searches_notLike_iff (reads : database.ReadsPatterns) {text : String}
    {wildcards : Wildcards} (searched : searchText? scalar = some word) :
    database.Searches (.text text) .notLike wildcards (.scalar scalar) ↔
      ¬ matched (wildcards.around word).toList text.toList := by
  simp [Database.Searches, searched, Database.compared, Database.relates, reads text]

/-- An operator asks of a text what it says when the word is plain. -/
theorem Operator.AsksText.relates_iff (asks : operator.AsksText test)
    (reads : database.ReadsPatterns) (searched : searchText? scalar = some word)
    (plain : ∀ sign ∈ word.toList, ¬ StandsForOthers sign) (text : String) :
    operator.Relates database (.text text) (.scalar scalar) ↔
      test word.toList text.toList := by
  cases asks with
  | contain | start | end_ =>
    rw [Relates, searches_like_iff reads searched, Wildcards.matched_around_iff plain]
    rfl
  | notLike =>
    rw [Relates, searches_notLike_iff reads searched, Wildcards.matched_around_iff plain]
    rfl

/-- Of the disguise of a word with a sign that stands for others, an operator asks the
opposite of what it says. -/
theorem Operator.AsksText.not_relates_iff (asks : operator.AsksText test)
    (reads : database.ReadsPatterns) (searched : searchText? scalar = some word) {sign : Char}
    (inside : sign ∈ word.toList) (stands : StandsForOthers sign) :
    ¬ (operator.Relates database (.text (String.ofList (disguise word.toList)))
        (.scalar scalar) ↔ test word.toList (disguise word.toList)) := by
  intro same
  have notFound (wildcards : Wildcards) :
      ¬ wildcards.Finds word.toList (disguise word.toList) :=
    Wildcards.not_finds_disguise inside stands
  cases asks with
  | contain =>
    rw [Relates, searches_like_iff reads searched, String.toList_ofList] at same
    exact notFound .both (same.mp Wildcards.matched_around_disguise)
  | start =>
    rw [Relates, searches_like_iff reads searched, String.toList_ofList] at same
    exact notFound .trailing (same.mp Wildcards.matched_around_disguise)
  | end_ =>
    rw [Relates, searches_like_iff reads searched, String.toList_ofList] at same
    exact notFound .leading (same.mp Wildcards.matched_around_disguise)
  | notLike =>
    rw [Relates, searches_notLike_iff reads searched, String.toList_ofList] at same
    exact same.mpr (notFound .both) Wildcards.matched_around_disguise

/-- An operator that searches texts makes a condition of every scalar with a text. -/
theorem Operator.AsksText.condition_eq_ok (asks : operator.AsksText test) (column : ColumnName)
    (key : String) (searched : searchText? scalar = some word) :
    ∃ condition, operator.condition column key (.scalar scalar) = .ok condition := by
  cases asks <;> simp [condition, patternOf, searched]

end

end DomainSql
