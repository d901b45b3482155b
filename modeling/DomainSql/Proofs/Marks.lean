import DomainSql.Proofs.Placeholders
import DomainSql.Proofs.SeparatedLists
import Mathlib.Data.Sum.Basic

/-!
# Reading rendered lists

A text and its arguments are one sequence of marks, in which every value stands
where its placeholder was. Two renderings with the same text and the same arguments
have the same marks, so it is enough to tell terms apart by their marks.

This is done from the left. An entry is told from another one when equal marks,
whatever follows them, can only come from equal entries that are followed by the
same. A list is told from another list entry by entry, as long as what follows it
can neither be taken for a separator nor for one more entry.
-/
namespace DomainSql.Sql

/-- A character of a text, or a value. -/
abbrev Mark := Char ⊕ Scalar

/-- The characters of a text. -/
def letters (words : String) : List Mark := words.toList.map Sum.inl

/-- The characters of fragments, with the values among them. -/
def marks (fragments : List Fragment) : List Mark :=
  fragments.flatMap fun
    | .text words => letters words
    | .place value => [.inr value]

/-- Nothing leaves no marks. -/
@[simp]
theorem marks_nil : marks [] = [] := rfl

/-- A text leaves its characters. -/
@[simp]
theorem marks_text (words : String) (rest : List Fragment) :
    marks (.text words :: rest) = letters words ++ marks rest := rfl

/-- A place leaves its value. -/
@[simp]
theorem marks_place (value : Scalar) (rest : List Fragment) :
    marks (.place value :: rest) = .inr value :: marks rest := rfl

/-- Fragments leave their marks in the order in which they stand. -/
@[simp]
theorem marks_append (first second : List Fragment) :
    marks (first ++ second) = marks first ++ marks second := by
  simp [marks]

/-- The marks of a text and its arguments: every placeholder becomes the next
argument. -/
def restored : List Char → List Scalar → List Mark
  | [], _ => []
  | c :: rest, values =>
    if c = placeholder then
      match values with
      | [] => restored rest []
      | value :: others => .inr value :: restored rest others
    else .inl c :: restored rest values

/-- A text without placeholders takes no argument away from what is behind it. -/
theorem restored_append {words rest : List Char} {values : List Scalar}
    (absent : placeholder ∉ words) :
    restored (words ++ rest) values = words.map Sum.inl ++ restored rest values := by
  induction words with
  | nil => rfl
  | cons first others ih =>
    obtain ⟨apart, ofOthers⟩ : placeholder ≠ first ∧ placeholder ∉ others := by
      simpa using absent
    simp [restored, apart.symm, ih ofOthers]

/-- The marks of fragments whose texts have no placeholders are those of their text
and arguments. -/
theorem restored_prepare {fragments : List Fragment}
    (worded : Worded (Lacks placeholder) fragments) :
    restored (prepare fragments).sql.toList (prepare fragments).arguments = marks fragments := by
  induction fragments with
  | nil => rfl
  | cons fragment rest ih =>
    have ofRest := ih fun words inside => worded words (List.mem_cons_of_mem _ inside)
    cases fragment with
    | text words =>
      have absent : placeholder ∉ words.toList := worded words List.mem_cons_self
      rw [toList_sql_text, arguments_text, restored_append absent, ofRest, marks_text, letters]
    | place value =>
      rw [toList_sql_place, arguments_place, restored, if_pos rfl, ofRest, marks_place]

/-- The same text and the same arguments come from the same marks. -/
theorem marks_eq_of_prepare {first second : List Fragment}
    (worded : Worded (Lacks placeholder) first) (alsoWorded : Worded (Lacks placeholder) second)
    (same : prepare first = prepare second) :
    marks first = marks second := by
  rw [← restored_prepare worded, ← restored_prepare alsoWorded, same]

/-- Neither of two words starts with the other one. -/
def apart (first second : String) : Bool :=
  !first.toList.isPrefixOf second.toList && !second.toList.isPrefixOf first.toList

/-- Two words of which none starts with the other one are told apart by their
letters. -/
theorem letters_append_ne {first second : String} (areApart : apart first second = true)
    (rest rest' : List Mark) : letters first ++ rest ≠ letters second ++ rest' := by
  intro same
  simp only [apart, Bool.and_eq_true, Bool.not_eq_true', ← Bool.not_eq_true,
    List.isPrefixOf_iff_prefix] at areApart
  have opens : letters first <+: letters second ++ rest' := ⟨rest, same⟩
  have alsoOpens : letters second <+: letters second ++ rest' := ⟨rest', rfl⟩
  rcases List.prefix_or_prefix_of_prefix opens alsoOpens with before | before
  · exact areApart.1 ((List.prefix_map_iff_of_injective Sum.inl_injective).mp before)
  · exact areApart.2 ((List.prefix_map_iff_of_injective Sum.inl_injective).mp before)

/-- A character that a name may go on with. -/
def inName : Mark → Bool := Sum.elim continuesIdentifier fun _ => false

/-- No name goes on in what follows. -/
def EndsName (rest : List Mark) : Prop :=
  ∀ c tail, rest = .inl c :: tail → continuesIdentifier c = false

/-- Words of the characters of names are told by where they end. -/
theorem word_told {first second : String} {rest rest' : List Mark}
    (firstWord : ∀ c ∈ first.toList, continuesIdentifier c = true)
    (secondWord : ∀ c ∈ second.toList, continuesIdentifier c = true)
    (ended : EndsName rest) (ended' : EndsName rest')
    (same : letters first ++ rest = letters second ++ rest') :
    first = second ∧ rest = rest' := by
  have taken {word : String} {tail : List Mark}
      (isWord : ∀ c ∈ word.toList, continuesIdentifier c = true) (tailEnded : EndsName tail) :
      (letters word ++ tail).takeWhile inName = letters word := by
    have inside : ∀ mark ∈ letters word, inName mark = true := by
      simpa [letters, inName] using isWord
    have nothing : tail.takeWhile inName = [] := by
      rcases tail with _ | ⟨c | value, others⟩
      · rfl
      · simp [inName, tailEnded c others rfl]
      · simp [inName]
    rw [List.takeWhile_append_of_pos inside, nothing, List.append_nil]
  have sameLetters : letters first = letters second := by
    rw [← taken firstWord ended, same, taken secondWord ended']
  refine ⟨String.toList_injective (List.map_injective_iff.mpr Sum.inl_injective sameLetters), ?_⟩
  rw [sameLetters] at same
  exact List.append_cancel_left same

/-- A plain name is told from a word that starts with something else. -/
theorem name_ne_word {name word : String} (plain : isIdentifier name = true)
    (noName : (word.toList.head?.any fun c => !startsIdentifier c) = true)
    (rest rest' : List Mark) : letters name ++ rest ≠ letters word ++ rest' := by
  obtain ⟨first, others, spelled, starts, _⟩ := isIdentifier_iff.mp plain
  intro same
  cases ofWord : word.toList with
  | nil => simp [ofWord] at noName
  | cons c more =>
    simp only [letters, spelled, ofWord, List.map_cons, List.cons_append, List.cons.injEq,
      Sum.inl.injEq] at same
    simp only [ofWord, List.head?_cons, Option.any_some, ← same.1, starts] at noName
    cases noName

/-- Plain names are told by where they end. -/
theorem name_told {first second : String} {rest rest' : List Mark}
    (firstPlain : isIdentifier first = true) (secondPlain : isIdentifier second = true)
    (ended : EndsName rest) (ended' : EndsName rest')
    (same : letters first ++ rest = letters second ++ rest') :
    first = second ∧ rest = rest' :=
  word_told (fun _ => continues_of_mem firstPlain) (fun _ => continues_of_mem secondPlain)
    ended ended' same

section
variable {α : Type} {read : α → List Mark} {ends : List Mark → Prop} {separator : String}
  {words : List String}

/-- Marks with the letters of a separator between them. -/
def joined (separator : String) : List (List Mark) → List Mark
  | [] => []
  | part :: parts => part ++ parts.flatMap (letters separator ++ ·)

/-- The marks of a list are those of its entries, with its separator between them. -/
@[simp]
theorem marks_separated (separator : String) (parts : List (List Fragment)) :
    marks (separated separator parts) = joined separator (parts.map marks) := by
  induction parts with
  | nil => rfl
  | cons first rest ih =>
    cases rest with
    | nil => simp [separated, joined]
    | cons second others => simp [separated_cons_cons, ih, joined]

/-- What follows is the end, or starts with one of some words. -/
def Closes (words : List String) (rest : List Mark) : Prop :=
  rest = [] ∨ ∃ word ∈ words, ∃ tail, rest = letters word ++ tail

/-- A character that no entry of a list starts with. -/
def closing (c : Char) : Bool := c = ' ' || c = ')'

/-- A word starts with such a character. -/
def startsClosing (word : String) : Bool := word.toList.head?.any closing

/-- Words that can neither be taken for a separator nor for an entry. -/
def separates (separator : String) (words : List String) : Bool :=
  separator ≠ "" && words.all fun word => apart word separator && startsClosing word

/-- An entry of a list starts with a value or with a character that does not close
the list. -/
def Opens (part : List Mark) : Prop :=
  ∃ mark tail, part = mark :: tail ∧ ∀ c, mark = .inl c → closing c = false

/-- Each of the words that separate starts with a character that closes. -/
theorem startsClosing_of_separates (separating : separates separator words = true) :
    ∀ word ∈ words, startsClosing word = true := by
  simp only [separates, Bool.and_eq_true, List.all_eq_true] at separating
  intro word listed
  exact (separating.2 word listed).2

/-- A word itself closes a list. -/
theorem closes_letters {word : String} (listed : word ∈ words) (tail : List Mark) :
    Closes words (letters word ++ tail) :=
  Or.inr ⟨word, listed, tail, rfl⟩

/-- A list in parentheses is closed by the parenthesis behind it. -/
theorem closes_parenthesis (tail : List Mark) : Closes [")"] (letters ")" ++ tail) :=
  closes_letters List.mem_cons_self tail

/-- What is closed by one of some words is closed by one of more. -/
theorem Closes.mono {others : List String} {rest : List Mark} (closes : Closes words rest)
    (more : words ⊆ others) : Closes others rest := by
  rcases closes with rfl | ⟨word, listed, tail, rfl⟩
  · exact Or.inl rfl
  · exact closes_letters (more listed) tail

/-- What closes a list does not start with its separator. -/
theorem Closes.ne_separator {rest : List Mark} (closes : Closes words rest)
    (separating : separates separator words = true) (tail : List Mark) :
    rest ≠ letters separator ++ tail := by
  simp only [separates, Bool.and_eq_true, decide_eq_true_eq, List.all_eq_true] at separating
  obtain ⟨proper, each⟩ := separating
  rcases closes with rfl | ⟨word, listed, behind, rfl⟩
  · intro same
    have empty : letters separator = [] := (List.append_eq_nil_iff.mp same.symm).1
    exact proper (by simpa [letters] using empty)
  · exact letters_append_ne (each word listed).1 behind tail

/-- What closes a list does not start with an entry. -/
theorem Closes.ne_entry {rest part : List Mark} (closes : Closes words rest)
    (closings : ∀ word ∈ words, startsClosing word = true) (opens : Opens part)
    (tail : List Mark) : rest ≠ part ++ tail := by
  obtain ⟨mark, others, rfl, notClosing⟩ := opens
  rcases closes with rfl | ⟨word, listed, behind, rfl⟩
  · simp
  · have closed := closings word listed
    intro same
    cases spelled : word.toList with
    | nil => simp [startsClosing, spelled] at closed
    | cons c more =>
      simp only [letters, spelled, List.map_cons, List.cons_append, List.cons.injEq] at same
      simp only [startsClosing, spelled, List.head?_cons, Option.any_some] at closed
      simp [notClosing c same.1.symm] at closed

/-- A character of a name does not close a list. -/
theorem closing_of_continues {c : Char} (continues : continuesIdentifier c = true) :
    closing c = false := by
  cases isClosing : closing c with
  | false => rfl
  | true =>
    simp only [closing, Bool.or_eq_true, decide_eq_true_eq] at isClosing
    rcases isClosing with rfl | rfl <;> exact absurd continues (by decide)

/-- No name goes on in what closes a list. -/
theorem Closes.endsName {rest : List Mark} (closes : Closes words rest)
    (closings : ∀ word ∈ words, startsClosing word = true) : EndsName rest := by
  intro c tail start
  cases continues : continuesIdentifier c with
  | false => rfl
  | true =>
    have opens : Opens [.inl c] := by
      refine ⟨.inl c, [], rfl, ?_⟩
      intro other same
      obtain rfl := Sum.inl.inj same
      exact closing_of_continues continues
    exact absurd start (closes.ne_entry closings opens tail)

/-- A name ends in front of a blank or a closing parenthesis. -/
theorem endsName_letters {word : String} (starts : startsClosing word = true)
    (tail : List Mark) : EndsName (letters word ++ tail) := by
  have closes : Closes [word] (letters word ++ tail) := closes_letters (by simp) tail
  exact closes.endsName (by simpa using starts)

/-- A plain name starts like an entry of a list. -/
theorem opens_name {name : String} (plain : isIdentifier name = true) (tail : List Mark) :
    Opens (letters name ++ tail) := by
  obtain ⟨first, rest, spelled, starts, _⟩ := isIdentifier_iff.mp plain
  refine ⟨.inl first, rest.map Sum.inl ++ tail, by simp [letters, spelled], ?_⟩
  intro c same
  obtain rfl := Sum.inl.inj same
  exact closing_of_continues (continues_of_starts starts)

variable (between : ∀ tail, ends (letters separator ++ tail))
  (ended : ∀ rest, Closes words rest → ends rest)
  (separating : separates separator words = true)
include between ended separating

/-- The entries behind the first one, each behind a separator, are told one by
one. -/
theorem followers_told {first second : List α} {rest rest' : List Mark}
    (each : ∀ a ∈ first, ∀ b ∈ second, Told read ends a b)
    (closes : Closes words rest) (closes' : Closes words rest')
    (same : (first.map read).flatMap (letters separator ++ ·) ++ rest =
      (second.map read).flatMap (letters separator ++ ·) ++ rest') :
    first = second ∧ rest = rest' := by
  have goesOn (entries : List α) {last : List Mark} (closesLast : Closes words last) :
      ends ((entries.map read).flatMap (letters separator ++ ·) ++ last) := by
    cases entries with
    | nil => exact ended last closesLast
    | cons entry others =>
      simp only [List.map_cons, List.flatMap_cons, List.append_assoc]
      exact between _
  induction first generalizing second with
  | nil =>
    cases second with
    | nil => exact ⟨rfl, same⟩
    | cons b others =>
      simp only [List.map_cons, List.flatMap_cons, List.append_assoc] at same
      exact absurd same (closes.ne_separator separating _)
  | cons a others ih =>
    cases second with
    | nil =>
      simp only [List.map_cons, List.flatMap_cons, List.append_assoc] at same
      exact absurd same.symm (closes'.ne_separator separating _)
    | cons b more =>
      simp only [List.map_cons, List.flatMap_cons, List.append_assoc,
        List.append_cancel_left_eq] at same
      obtain ⟨rfl, sameRest⟩ := each a List.mem_cons_self b List.mem_cons_self _ _
        (goesOn others closes) (goesOn more closes') same
      have eachBehind : ∀ x ∈ others, ∀ y ∈ more, Told read ends x y := by
        intro x inFirst y inSecond
        exact each x (List.mem_cons_of_mem _ inFirst) y (List.mem_cons_of_mem _ inSecond)
      obtain ⟨rfl, sameEnd⟩ := ih eachBehind sameRest
      exact ⟨rfl, sameEnd⟩

/-- Lists are told from each other when their entries are. -/
theorem joined_told {first second : List α} {rest rest' : List Mark}
    (each : ∀ a ∈ first, ∀ b ∈ second, Told read ends a b)
    (opens : ∀ a ∈ first, Opens (read a)) (opens' : ∀ b ∈ second, Opens (read b))
    (closes : Closes words rest) (closes' : Closes words rest')
    (same : joined separator (first.map read) ++ rest =
      joined separator (second.map read) ++ rest') :
    first = second ∧ rest = rest' := by
  have closings := startsClosing_of_separates separating
  cases first with
  | nil =>
    cases second with
    | nil => exact ⟨rfl, same⟩
    | cons b more =>
      simp only [List.map_cons, joined, List.append_assoc] at same
      exact absurd same (closes.ne_entry closings (opens' b List.mem_cons_self) _)
  | cons a others =>
    cases second with
    | nil =>
      simp only [List.map_cons, joined, List.append_assoc] at same
      exact absurd same.symm (closes'.ne_entry closings (opens a List.mem_cons_self) _)
    | cons b more =>
      have behind : letters separator ++ (joined separator ((a :: others).map read) ++ rest) =
          letters separator ++ (joined separator ((b :: more).map read) ++ rest') := by rw [same]
      refine followers_told between ended separating each closes closes' ?_
      simpa [joined] using behind

omit between ended separating in
/-- Entries behind a keyword, which is left out together with them. -/
def clause (keyword separator : String) (parts : List (List Mark)) : List Mark :=
  if parts.isEmpty then [] else letters keyword ++ joined separator parts

omit between ended separating in
/-- A clause closes what its keyword closes. -/
theorem closes_clause {rest : List Mark} (closes : Closes words rest) (keyword : String)
    (parts : List (List Mark)) :
    Closes (keyword :: words) (clause keyword separator parts ++ rest) := by
  unfold clause
  split
  · exact closes.mono (List.subset_cons_self _ _)
  · rw [List.append_assoc]
    exact closes_letters List.mem_cons_self _

/-- Clauses are told from each other when their entries are, as long as what follows
is not the keyword. -/
theorem clause_told {keyword : String} (keyed : separates keyword words = true)
    {first second : List α} {rest rest' : List Mark}
    (each : ∀ a ∈ first, ∀ b ∈ second, Told read ends a b)
    (opens : ∀ a ∈ first, Opens (read a)) (opens' : ∀ b ∈ second, Opens (read b))
    (closes : Closes words rest) (closes' : Closes words rest')
    (same : clause keyword separator (first.map read) ++ rest =
      clause keyword separator (second.map read) ++ rest') :
    first = second ∧ rest = rest' := by
  cases first with
  | nil =>
    cases second with
    | nil => exact ⟨rfl, same⟩
    | cons b more =>
      simp only [clause, List.map_cons, List.isEmpty_cons, List.map_nil, List.isEmpty_nil,
        if_true, Bool.false_eq_true, if_false, List.nil_append, List.append_assoc] at same
      exact absurd same (closes.ne_separator keyed _)
  | cons a others =>
    cases second with
    | nil =>
      simp only [clause, List.map_cons, List.isEmpty_cons, List.map_nil, List.isEmpty_nil,
        if_true, Bool.false_eq_true, if_false, List.nil_append, List.append_assoc] at same
      exact absurd same.symm (closes'.ne_separator keyed _)
    | cons b more =>
      refine joined_told between ended separating each opens opens' closes closes' ?_
      simpa [clause] using same

omit ended separating in
/-- Lists that a parenthesis closes are told from each other when their entries are, and so is
what stands behind the parenthesis. -/
theorem enclosed_told (ended : ∀ rest, Closes [")"] rest → ends rest)
    (separating : separates separator [")"] = true)
    {first second : List α} {rest rest' : List Mark}
    (each : ∀ a ∈ first, ∀ b ∈ second, Told read ends a b)
    (opens : ∀ a ∈ first, Opens (read a)) (opens' : ∀ b ∈ second, Opens (read b))
    (same : joined separator (first.map read) ++ (letters ")" ++ rest) =
      joined separator (second.map read) ++ (letters ")" ++ rest')) :
    first = second ∧ rest = rest' := by
  obtain ⟨rfl, sameRest⟩ := joined_told between ended separating each opens opens'
    (closes_parenthesis rest) (closes_parenthesis rest') same
  exact ⟨rfl, List.append_cancel_left sameRest⟩

end

end DomainSql.Sql
