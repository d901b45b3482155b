import DomainSql.Proofs.SortText

/-!
# Sort texts read back

A sort text is accepted exactly when each of its parts asks for an order, and then it gives
one order for every part. So a list of columns and directions is read back from any text that
it is written as, whatever the case of the directions and the blanks around the words.

Blanks around the whole text are cut off before it is taken apart. They are blanks of its
first and its last part, and since blanks around a part make no difference to it, the parts
of the text may be looked at with these blanks or without them.
-/
namespace DomainSql

open Sql Text

/-- A part of a sort text asks for an order by the column of a field. -/
def AsksFor (naming : Naming) (entry : List Char) (item : OrderItem) : Prop :=
  ∃ column direction, SortEntry entry column direction ∧
    item = ⟨naming.columnName column, direction⟩

/-- A sort text is written for columns and directions: every one of them has its own part. -/
def WrittenSort (entries : List (String × Direction)) (text : List Char) : Prop :=
  ∃ parts, List.Forall₂ (fun entry part => SortEntry part entry.1 entry.2) entries parts ∧
    text = [';'].intercalate parts

namespace Text

/-- Blanks around a text are cut off with those that it has at its ends. -/
theorem trim_padded {word text : List Char} (padded : Padded word text) :
    trim text = trim word := by
  obtain ⟨before, after, front, back, joined⟩ := padded
  have cutFront : trimStart text = trimStart (word ++ after) := by
    rw [joined, List.append_assoc]
    exact List.dropWhile_append_of_pos front
  have backBlank : ∀ c ∈ after.reverse, isBlank c = true :=
    fun c inside => back c (List.mem_reverse.mp inside)
  by_cases blank : Blank word
  · have nothing : Blank (word ++ after) := fun c inside =>
      (List.mem_append.mp inside).elim (blank c) (back c)
    have noWord : trimStart word = [] := List.dropWhile_eq_nil_iff.mpr blank
    have noText : trimStart (word ++ after) = [] := List.dropWhile_eq_nil_iff.mpr nothing
    rw [trim, trim, cutFront, noWord, noText]
  · have something : trimStart word ≠ [] := fun none =>
      blank (List.dropWhile_eq_nil_iff.mp none)
    have cutBack : trimStart (word ++ after) = trimStart word ++ after := by
      have notEmpty : ¬ (word.dropWhile isBlank).isEmpty = true := fun empty =>
        something (List.isEmpty_iff.mp empty)
      exact List.dropWhile_append.trans (if_neg notEmpty)
    have dropped : trimStart (after.reverse ++ (trimStart word).reverse) =
        trimStart (trimStart word).reverse := List.dropWhile_append_of_pos backBlank
    rw [trim, trim, cutFront, cutBack, List.reverse_append, dropped]

section
variable {β : Type} {read : List Char → β} {separator : Char} {word : List Char}

/-- Blanks in front of a text are blanks of its first part. -/
theorem map_splitOn_front (indifferent : ∀ {word text}, Padded word text → read text = read word)
    (apart : isBlank separator = false) {before : List Char} (front : Blank before) :
    ((before ++ word).splitOn separator).map read = (word.splitOn separator).map read := by
  have absent : separator ∉ before := fun inside => by simp [front _ inside] at apart
  have first {part : List Char} : read (before ++ part) = read part :=
    indifferent ⟨before, [], front, by simp [Blank], by simp⟩
  by_cases cut : separator ∈ word
  · obtain ⟨part, rest, joined, uncut⟩ := List.eq_append_cons_of_mem cut
    have uncutToo : separator ∉ before ++ part := by simp [absent, uncut]
    rw [joined, ← List.append_assoc, List.splitOn_append_cons_self, List.splitOn_append_cons_self,
      List.splitOn_eq_singleton uncut, List.splitOn_eq_singleton uncutToo]
    simp [first]
  · have uncut : separator ∉ before ++ word := by simp [absent, cut]
    rw [List.splitOn_eq_singleton cut, List.splitOn_eq_singleton uncut]
    simp [first]

/-- Blanks behind a text are blanks of its last part. -/
theorem map_splitOn_back (indifferent : ∀ {word text}, Padded word text → read text = read word)
    (apart : isBlank separator = false) {after : List Char} (back : Blank after) :
    ((word ++ after).splitOn separator).map read = (word.splitOn separator).map read := by
  have absent : separator ∉ after := fun inside => by simp [back _ inside] at apart
  have last {part : List Char} : read (part ++ after) = read part :=
    indifferent ⟨[], after, by simp [Blank], back, by simp⟩
  by_cases cut : separator ∈ word
  · obtain ⟨part, rest, joined, uncut⟩ := List.eq_append_cons_of_mem (List.mem_reverse.mpr cut)
    have joinedBack : word = rest.reverse ++ separator :: part.reverse := by
      rw [← List.reverse_reverse word, joined]
      simp
    have uncutBack : separator ∉ part.reverse := by simpa using uncut
    have uncutToo : separator ∉ part.reverse ++ after := by simp [absent, uncut]
    rw [joinedBack, List.append_assoc, List.cons_append, List.splitOn_append_cons_self,
      List.splitOn_append_cons_self, List.splitOn_eq_singleton uncutBack,
      List.splitOn_eq_singleton uncutToo]
    simp [last]
  · have uncut : separator ∉ word ++ after := by simp [absent, cut]
    rw [List.splitOn_eq_singleton cut, List.splitOn_eq_singleton uncut]
    simp [last]

/-- Where blanks around a part make no difference, blanks around a text make none to the
reading of its parts. -/
theorem map_splitOn_trim (indifferent : ∀ {word text}, Padded word text → read text = read word)
    (apart : isBlank separator = false) (text : List Char) :
    ((trim text).splitOn separator).map read = (text.splitOn separator).map read := by
  obtain ⟨before, after, front, back, joined⟩ := padded_trim text
  have cutFront := @map_splitOn_front β read separator (trim text ++ after) indifferent apart
    before front
  rw [← List.append_assoc, ← joined] at cutFront
  rw [cutFront, map_splitOn_back indifferent apart back]

end

end Text

/-- Blanks around a part of a sort text make no difference to it. -/
theorem sortItem?_padded {naming : Naming} {word text : List Char} (padded : Padded word text) :
    sortItem? naming text = sortItem? naming word := by
  have noComma {blanks : List Char} (blank : Blank blanks) : ',' ∉ blanks := fun inside =>
    absurd (blank _ inside) (by decide)
  obtain ⟨before, after, front, back, joined⟩ := padded
  by_cases comma : ',' ∈ word
  · obtain ⟨column, direction, cutWord, uncut⟩ := List.eq_append_cons_of_mem comma
    have cut : splitFirst? ',' word = some (column, direction) :=
      splitFirst?_eq_some_iff.mpr ⟨cutWord, uncut⟩
    have cutText : splitFirst? ',' text = some (before ++ column, direction ++ after) :=
      splitFirst?_eq_some_iff.mpr
        ⟨by rw [joined, cutWord]; simp, by simp [noComma front, uncut]⟩
    have sameColumn : trim (before ++ column) = trim column :=
      trim_padded ⟨before, [], front, by simp [Blank], by simp⟩
    have sameWord : trim (direction ++ after) = trim direction :=
      trim_padded ⟨[], after, by simp [Blank], back, by simp⟩
    have sameDirection : directionOf? (direction ++ after) = directionOf? direction := by
      rw [directionOf?, directionOf?, sameWord]
    cases asked : directionOf? direction <;>
      simp [sortItem?, cut, cutText, sameDirection, asked, sameColumn]
  · have cut := splitFirst?_eq_none_iff.mpr comma
    have cutText : splitFirst? ',' text = none := by
      rw [splitFirst?_eq_none_iff, joined]
      simp [noComma front, comma, noComma back]
    have sameColumn : trim text = trim word := trim_padded ⟨before, after, front, back, joined⟩
    simp [sortItem?, cut, cutText, sameColumn]

/-- There is no semicolon in a part of a sort text: neither blanks nor words have one. -/
theorem SortEntry.uncut {entry : List Char} {column : String} {direction : Direction}
    (asks : SortEntry entry column direction) : ';' ∉ entry := by
  have around {word text : List Char} (padded : Padded word text) (absent : ';' ∉ word) :
      ';' ∉ text := by
    obtain ⟨before, after, front, back, joined⟩ := padded
    have notFront : ';' ∉ before := fun inside => absurd (front _ inside) (by decide)
    have notBack : ';' ∉ after := fun inside => absurd (back _ inside) (by decide)
    rw [joined]
    simp [notFront, absent, notBack]
  have named (plain : isIdentifier column = true) : ';' ∉ column.toList := fun inside =>
    absurd (continues_of_mem plain inside) (by decide)
  cases asks with
  | column plain padded => exact around padded (named plain)
  | @directed _ _ word _ _ plain padded spelled behind =>
    have notSpelled : ';' ∉ word := by
      intro inside
      have lower : ';' ∈ direction.word.toList := spelled ▸ List.mem_map_of_mem inside
      revert lower
      cases direction <;> decide
    simp [around padded (named plain), around behind notSpelled]

/-- The parts of a sort text are read as if the blanks around the text were still there. -/
theorem mapM_sortItem?_trim {naming : Naming} (text : List Char) :
    (splitAt ';' (trim text)).mapM (sortItem? naming) =
      (splitAt ';' text).mapM (sortItem? naming) := by
  have semicolonShown : isBlank ';' = false := by decide
  have same := map_splitOn_trim (@sortItem?_padded naming) semicolonShown text
  have apart (parts : List (List Char)) :
      parts.mapM (sortItem? naming) = (parts.map (sortItem? naming)).mapM id := by
    rw [List.mapM_map]
    rfl
  rw [splitAt_eq_splitOn, splitAt_eq_splitOn, apart, apart, same]

/-- What is written as a sort text is read back from it, part by part. -/
theorem mapM_sortItem?_of_written {naming : Naming} {entries : List (String × Direction)}
    {text : List Char} (some : entries ≠ []) (written : WrittenSort entries text) :
    (splitAt ';' text).mapM (sortItem? naming) =
      Option.some (entries.map fun entry => ⟨naming.columnName entry.1, entry.2⟩) := by
  obtain ⟨parts, each, joined⟩ := written
  have uncut : ∀ part ∈ parts, ';' ∉ part := by
    intro part listed
    obtain ⟨entry, _, asks⟩ := exists_entry_of_mem each listed
    exact asks.uncut
  have notEmpty : parts ≠ [] := by
    intro none
    rw [none, List.forall₂_nil_right_iff] at each
    exact some each
  rw [splitAt_eq_splitOn, joined, List.splitOn_intercalate _ uncut notEmpty, mapM_eq_some,
    List.forall₂_map_right_iff]
  exact each.flip.imp fun part entry asks =>
    sortItem?_eq_some_iff.mpr ⟨entry.1, entry.2, asks, rfl⟩

/-- A sort text with something in it gives the orders that its parts ask for. -/
theorem compileSort_eq_ok {naming : Naming} {sort : String} (something : trim sort.toList ≠ [])
    {items : List OrderItem} :
    compileSort naming (some sort) = .ok items ↔
      List.Forall₂ (AsksFor naming) ((trim sort.toList).splitOn ';') items := by
  have parts : (splitAt ';' (trim sort.toList)).mapM (sortItem? naming) = some items ↔
      List.Forall₂ (AsksFor naming) ((trim sort.toList).splitOn ';') items := by
    rw [splitAt_eq_splitOn, mapM_eq_some]
    simp only [sortItem?_eq_some_iff]
    exact Iff.rfl
  rw [← parts]
  simp only [compileSort, Option.getD_some]
  rw [if_neg (by simpa using something)]
  cases (splitAt ';' (trim sort.toList)).mapM (sortItem? naming) <;> simp

/-- A sort text is refused as a whole, without the blanks around it. -/
theorem compileSort_eq_error {naming : Naming} {sort : String}
    (failed : ¬ Succeeds (compileSort naming (some sort))) :
    compileSort naming (some sort) = .error (.invalidSort (String.ofList (trim sort.toList))) := by
  unfold compileSort at failed ⊢
  simp only [Option.getD_some] at failed ⊢
  by_cases empty : (trim sort.toList).isEmpty = true
  · rw [if_pos empty] at failed
    exact absurd (succeeds_ok _) failed
  · rw [if_neg empty] at failed ⊢
    cases read : (splitAt ';' (trim sort.toList)).mapM (sortItem? naming) with
    | none => rfl
    | some items =>
      rw [read] at failed
      exact absurd (succeeds_ok _) failed

/-- A text without anything but blanks is no sort text, and none at all asks for nothing
either. Any other text is a sort text exactly when every part of it asks for an order, and
then there is one order for each part; if not, the error holds the text without the blanks
around it. What is written as a sort text is read back. -/
theorem sortTexts_exact (naming : Naming) :
    compileSort naming none = .ok [] ∧
    (∀ sort : String, trim sort.toList = [] → compileSort naming (some sort) = .ok []) ∧
    (∀ sort : String, trim sort.toList ≠ [] →
      (Succeeds (compileSort naming (some sort)) ↔ SortText (trim sort.toList)) ∧
      (∀ items, compileSort naming (some sort) = .ok items ↔
        List.Forall₂ (AsksFor naming) ((trim sort.toList).splitOn ';') items) ∧
      (¬ SortText (trim sort.toList) → compileSort naming (some sort) =
        .error (.invalidSort (String.ofList (trim sort.toList))))) ∧
    ∀ (entries : List (String × Direction)) (sort : String), entries ≠ [] →
      WrittenSort entries sort.toList →
      compileSort naming (some sort) =
        .ok (entries.map fun entry => ⟨naming.columnName entry.1, entry.2⟩) := by
  refine ⟨rfl, ?_, ?_, ?_⟩
  · intro sort nothing
    simp [compileSort, nothing]
  · intro sort something
    have notBlank : ¬ Blank sort.toList := fun blank => something (trim_eq_nil_iff.mpr blank)
    have accepted : Succeeds (compileSort naming (some sort)) ↔ SortText (trim sort.toList) := by
      rw [succeeds_compileSort]
      simp [notBlank]
    refine ⟨accepted, fun items => compileSort_eq_ok something, fun noSortText => ?_⟩
    exact compileSort_eq_error fun succeeds => noSortText (accepted.mp succeeds)
  · intro entries sort someEntry written
    have read : (splitAt ';' sort.toList).mapM (sortItem? naming) = _ :=
      mapM_sortItem?_of_written someEntry written
    rw [← mapM_sortItem?_trim] at read
    have something : trim sort.toList ≠ [] := by
      intro nothing
      rw [nothing] at read
      have noItem : (splitAt ';' []).mapM (sortItem? naming) = none := rfl
      rw [noItem] at read
      cases read
    unfold compileSort
    simp only [Option.getD_some]
    rw [if_neg (by simpa using something), read]

/-- Three columns with blanks of several kinds around them and around their directions. -/
def spacedSort : String := " createTime ,\tDeSC ;id; user_name, asc\n"

/-- Three entries are read back from a text with white space around them. With a semicolon at the
end there is a part that asks for nothing, and the text is refused without the blanks around it. -/
theorem spacedSort_read_back :
    WrittenSort [("createTime", .descending), ("id", .ascending), ("user_name", .ascending)]
      spacedSort.toList ∧
    compileSort {} (some spacedSort) =
      .ok [⟨"create_time", .descending⟩, ⟨"id", .ascending⟩, ⟨"user_name", .ascending⟩] ∧
    ¬ SortText (trim " id;".toList) ∧
    compileSort {} (some " id;") = .error (.invalidSort "id;") := by
  obtain ⟨_, _, readAlone, readBack⟩ := sortTexts_exact {}
  have written : WrittenSort
      [("createTime", .descending), ("id", .ascending), ("user_name", .ascending)]
      spacedSort.toList := by
    have oneBlank : Blank [' '] := List.all_eq_true.mp (by decide)
    have noBlank : Blank [] := List.all_eq_true.mp (by decide)
    have tab : Blank ['\t'] := List.all_eq_true.mp (by decide)
    have newline : Blank ['\n'] := List.all_eq_true.mp (by decide)
    refine ⟨[" createTime ".toList ++ ',' :: "\tDeSC ".toList, "id".toList,
      " user_name".toList ++ ',' :: " asc\n".toList],
      .cons ?_ (.cons ?_ (.cons ?_ .nil)), by decide⟩
    · exact @SortEntry.directed _ _ "DeSC".toList _ _ (by decide)
        ⟨[' '], [' '], oneBlank, oneBlank, by decide⟩ (by decide)
        ⟨['\t'], [' '], tab, oneBlank, by decide⟩
    · exact .column (by decide) ⟨[], [], noBlank, noBlank, by decide⟩
    · exact @SortEntry.directed _ _ "asc".toList _ _ (by decide)
        ⟨[' '], [], oneBlank, noBlank, by decide⟩ (by decide)
        ⟨[' '], ['\n'], oneBlank, newline, by decide⟩
  have unfinished : ¬ SortText (trim " id;".toList) := by
    rw [← @exists_items_iff {}]
    rintro ⟨items, read⟩
    have nothing : (splitAt ';' (trim " id;".toList)).mapM (sortItem? {}) = none := by decide
    cases nothing.symm.trans read
  exact ⟨written, readBack _ _ (by decide) written, unfinished,
    (readAlone " id;" (by decide)).2.2 unfinished⟩

end DomainSql
