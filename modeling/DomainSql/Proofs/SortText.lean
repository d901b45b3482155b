import DomainSql.Proofs.Outcomes
import DomainSql.Proofs.PlainNames
import DomainSql.Sort
import Mathlib.Data.List.DropRight

/-!
# Sort texts

The grammar of sort texts, told without reading one: parts between semicolons, each
of them a plain name with blanks around it, or a plain name and a direction with
blanks around both and a comma in between. Reading a part gives an order exactly
when the part has this form, and then the order of its name and direction.

Neither names nor directions hold a blank, a comma or a semicolon, so blanks can be
cut off and parts can be told apart without looking at what is between them.
-/
namespace DomainSql

open Sql

namespace Text

/-- A text of nothing but blanks. -/
def Blank (text : List Char) : Prop := ∀ c ∈ text, isBlank c = true

/-- A word with blanks around it. -/
def Padded (word text : List Char) : Prop :=
  ∃ before after, Blank before ∧ Blank after ∧ text = before ++ word ++ after

/-- Nothing but blanks is cut off a text. -/
theorem padded_trim (text : List Char) : Padded (trim text) text := by
  have front : Blank (text.takeWhile isBlank) := fun c inside => List.mem_takeWhile_imp inside
  have back : Blank ((trimStart text).rtakeWhile isBlank) :=
    fun c inside => List.mem_rtakeWhile_imp inside
  have cutBack : trim text ++ (trimStart text).rtakeWhile isBlank = trimStart text :=
    List.rdropWhile_append_rtakeWhile
  refine ⟨_, _, front, back, ?_⟩
  rw [List.append_assoc, cutBack]
  exact List.takeWhile_append_dropWhile.symm

/-- A text without blanks has none at its start. -/
theorem trimStart_of_solid {word : List Char} (solid : ∀ c ∈ word, isBlank c = false) :
    trimStart word = word := by
  cases word with
  | nil => rfl
  | cons first rest => simp [trimStart, solid first List.mem_cons_self]

/-- A text is cut down to the word in it. -/
theorem trim_of_padded {word text : List Char} (solid : ∀ c ∈ word, isBlank c = false)
    (padded : Padded word text) : trim text = word := by
  obtain ⟨before, after, front, back, rfl⟩ := padded
  have cutFront : trimStart (before ++ word ++ after) = trimStart (word ++ after) := by
    rw [List.append_assoc]
    exact List.dropWhile_append_of_pos front
  cases word with
  | nil =>
    have nothing : trimStart after = [] := List.dropWhile_eq_nil_iff.mpr back
    rw [trim, cutFront, List.nil_append, nothing]
    rfl
  | cons first rest =>
    have kept : trimStart (first :: rest ++ after) = first :: rest ++ after := by
      simp [trimStart, solid first List.mem_cons_self]
    have cutBack : trimStart (first :: rest ++ after).reverse =
        trimStart (first :: rest).reverse := by
      rw [List.reverse_append]
      exact List.dropWhile_append_of_pos fun c inside => back c (List.mem_reverse.mp inside)
    have solidBack : ∀ c ∈ (first :: rest).reverse, isBlank c = false :=
      fun c inside => solid c (List.mem_reverse.mp inside)
    rw [trim, cutFront, kept, cutBack, trimStart_of_solid solidBack, List.reverse_reverse]

/-- Cutting the blanks off gives a word exactly when the text is that word with
blanks around it. -/
theorem trim_eq_iff {word text : List Char} (solid : ∀ c ∈ word, isBlank c = false) :
    trim text = word ↔ Padded word text := by
  constructor
  · rintro rfl
    exact padded_trim text
  · exact trim_of_padded solid

/-- Nothing is left of a text of blanks. -/
theorem trim_eq_nil_iff {text : List Char} : trim text = [] ↔ Blank text := by
  rw [trim_eq_iff (by simp)]
  constructor
  · rintro ⟨before, after, front, back, rfl⟩
    intro c inside
    simp only [List.append_nil, List.mem_append] at inside
    exact inside.elim (front c) (back c)
  · intro blank
    exact ⟨text, [], blank, by simp [Blank], by simp⟩

/-- A character of a kind that no blank is of is no blank. -/
theorem isBlank_eq_false_of {kind : Char → Bool}
    (apart : ∀ point ∈ blankCodePoints, kind (Char.ofNat point) = false) {c : Char}
    (ofKind : kind c = true) : isBlank c = false := by
  rw [isBlank, List.contains_eq_mem, decide_eq_false_iff_not]
  intro listed
  have unlike := apart c.toNat listed
  rw [Char.ofNat_toNat, ofKind] at unlike
  cases unlike

end Text

open Text

/-- There is no blank in a plain name. -/
theorem solid_of_isIdentifier {name : String} (plain : isIdentifier name = true) :
    ∀ c ∈ name.toList, isBlank c = false := by
  intro c inside
  exact isBlank_eq_false_of (by decide) (continues_of_mem plain inside)

/-- Cutting at single characters is cutting at a separator. -/
theorem splitAt_eq_splitOn (separator : Char) (text : List Char) :
    splitAt separator text = text.splitOn separator := by
  induction text with
  | nil => simp [splitAt]
  | cons c rest ih =>
    obtain ⟨part, parts, cut⟩ := List.exists_cons_of_ne_nil (List.splitOn_ne_nil separator rest)
    rw [splitAt, ih, cut, List.splitOn_cons_eq_if_modifyHead, cut]
    by_cases same : c = separator <;> simp [same]

/-- A text without the separator is not cut. -/
theorem splitFirst?_eq_none_iff {separator : Char} {text : List Char} :
    splitFirst? separator text = none ↔ separator ∉ text := by
  induction text with
  | nil => simp [splitFirst?]
  | cons c rest ih =>
    by_cases same : c = separator
    · simp [splitFirst?, same]
    · simp [splitFirst?, same, ih, Ne.symm same]

/-- A text is cut at the first separator. -/
theorem splitFirst?_eq_some_iff {separator : Char} {text front back : List Char} :
    splitFirst? separator text = some (front, back) ↔
      text = front ++ separator :: back ∧ separator ∉ front := by
  induction text generalizing front with
  | nil => simp [splitFirst?]
  | cons c rest ih =>
    by_cases same : c = separator
    · subst same
      rw [splitFirst?, if_pos rfl]
      constructor
      · intro cut
        obtain ⟨rfl, rfl⟩ := Prod.mk.inj (Option.some.inj cut)
        exact ⟨rfl, List.not_mem_nil⟩
      · rintro ⟨joined, absent⟩
        cases front with
        | nil =>
          obtain ⟨_, rfl⟩ := List.cons.inj joined
          rfl
        | cons first others =>
          obtain ⟨rfl, _⟩ := List.cons.inj joined
          exact absurd List.mem_cons_self absent
    · rw [splitFirst?, if_neg same, Option.map_eq_some_iff]
      constructor
      · rintro ⟨⟨start, behind⟩, cut, pair⟩
        obtain ⟨rfl, rfl⟩ := Prod.mk.inj pair
        obtain ⟨rfl, absent⟩ := ih.mp cut
        exact ⟨rfl, by simp [absent, Ne.symm same]⟩
      · rintro ⟨joined, absent⟩
        cases front with
        | nil => exact absurd (List.cons.inj joined).1 same
        | cons first others =>
          obtain ⟨rfl, rfl⟩ := List.cons.inj joined
          have absentBehind : separator ∉ others := fun inside =>
            absent (List.mem_cons_of_mem _ inside)
          exact ⟨(others, back), ih.mpr ⟨rfl, absentBehind⟩, rfl⟩

/-- The word for a direction, in small letters. -/
def Sql.Direction.word : Direction → String
  | .ascending => "asc"
  | .descending => "desc"

/-- A part of a sort text that asks for the order by a column in a direction. Letters
of either case may spell the direction. -/
inductive SortEntry : List Char → String → Direction → Prop
  | column {entry : List Char} {column : String} (plain : isIdentifier column = true)
    (padded : Padded column.toList entry) : SortEntry entry column .ascending
  | directed {front back word : List Char} {column : String} {direction : Direction}
    (plain : isIdentifier column = true) (padded : Padded column.toList front)
    (spelled : word.map Char.toLower = direction.word.toList) (behind : Padded word back) :
    SortEntry (front ++ ',' :: back) column direction

/-- A sort text: every part of it between semicolons asks for an order. -/
def SortText (text : List Char) : Prop :=
  ∀ entry ∈ text.splitOn ';', ∃ column direction, SortEntry entry column direction

/-- There is no blank in a word that spells a direction. -/
theorem solid_of_spelled {word : List Char} {direction : Direction}
    (spelled : word.map Char.toLower = direction.word.toList) :
    ∀ c ∈ word, isBlank c = false := by
  have letters : ∀ c ∈ direction.word.toList, "ascde".toList.contains c = true := by
    rw [← List.all_eq_true]
    cases direction <;> decide
  have apart : ∀ point ∈ blankCodePoints,
      "ascde".toList.contains (Char.ofNat point).toLower = false := by decide
  intro c inside
  have lower : c.toLower ∈ direction.word.toList := spelled ▸ List.mem_map_of_mem inside
  exact @isBlank_eq_false_of (fun c => "ascde".toList.contains c.toLower) apart c (letters _ lower)

/-- The direction that a text asks for is the one that the word in it spells. -/
theorem directionOf?_eq_some_iff {text : List Char} {direction : Direction} :
    directionOf? text = some direction ↔
      ∃ word, word.map Char.toLower = direction.word.toList ∧ Padded word text := by
  have read : directionOf? text = some direction ↔
      (trim text).map Char.toLower = direction.word.toList := by
    unfold directionOf?
    generalize (trim text).map Char.toLower = lower
    split
    · rename_i ascends
      have letters : lower = "asc".toList := by rw [← ascends, String.toList_ofList]
      subst letters
      cases direction <;> simp [Direction.word]
    · rename_i descends
      have letters : lower = "desc".toList := by rw [← descends, String.toList_ofList]
      subst letters
      cases direction <;> simp [Direction.word]
    · rename_i notUp notDown
      simp only [reduceCtorEq, false_iff]
      rintro rfl
      cases direction
      · exact notUp String.ofList_toList
      · exact notDown String.ofList_toList
  rw [read]
  constructor
  · intro spelled
    exact ⟨trim text, spelled, padded_trim text⟩
  · rintro ⟨word, spelled, padded⟩
    rw [trim_of_padded (solid_of_spelled spelled) padded, spelled]

/-- A plain name with blanks around it has no comma. -/
theorem comma_not_mem {column : String} {text : List Char} (plain : isIdentifier column = true)
    (padded : Padded column.toList text) : ',' ∉ text := by
  obtain ⟨before, after, front, back, rfl⟩ := padded
  intro inside
  rcases List.mem_append.mp inside with inFront | inBack
  · rcases List.mem_append.mp inFront with inBefore | inName
    · exact absurd (front _ inBefore) (by decide)
    · exact absurd (continues_of_mem plain inName) (by decide)
  · exact absurd (back _ inBack) (by decide)

/-- Reading a part of a sort text gives the order that the part asks for, and none if
the part asks for none. -/
theorem sortItem?_eq_some_iff {naming : Naming} {entry : List Char} {item : OrderItem} :
    sortItem? naming entry = some item ↔
      ∃ column direction, SortEntry entry column direction ∧
        item = ⟨naming.columnName column, direction⟩ := by
  have named {text : List Char} {column : String} (plain : isIdentifier column = true)
      (padded : Padded column.toList text) : String.ofList (trim text) = column := by
    rw [trim_of_padded (solid_of_isIdentifier plain) padded, String.ofList_toList]
  constructor
  · intro read
    unfold sortItem? at read
    split at read
    · simp only [Option.bind_eq_bind, Option.bind_some] at read
      split at read
      · rename_i plain
        refine ⟨_, _, SortEntry.column plain ?_, (Option.some.inj read).symm⟩
        rw [String.toList_ofList]
        exact padded_trim entry
      · cases read
    · rename_i column word cut
      obtain ⟨rfl, _⟩ := splitFirst?_eq_some_iff.mp cut
      simp only [Option.bind_eq_bind, Option.bind_eq_some_iff, Option.map_eq_some_iff] at read
      obtain ⟨_, ⟨direction, direct, rfl⟩, read⟩ := read
      split at read
      · rename_i plain
        obtain ⟨spelling, spelled, behind⟩ := directionOf?_eq_some_iff.mp direct
        refine ⟨_, _, SortEntry.directed plain ?_ spelled behind, (Option.some.inj read).symm⟩
        rw [String.toList_ofList]
        exact padded_trim column
      · cases read
  · rintro ⟨column, direction, asks, rfl⟩
    cases asks with
    | column plain padded =>
      have uncut := splitFirst?_eq_none_iff.mpr (comma_not_mem plain padded)
      unfold sortItem?
      simp [uncut, named plain padded, plain]
    | @directed front back _ _ _ plain padded spelled behind =>
      have cut : splitFirst? ',' (front ++ ',' :: back) = some (front, back) :=
        splitFirst?_eq_some_iff.mpr ⟨rfl, comma_not_mem plain padded⟩
      have direct := directionOf?_eq_some_iff.mpr ⟨_, spelled, behind⟩
      unfold sortItem?
      simp [cut, direct, named plain padded, plain]

/-- The parts of a sort text are read one by one. -/
theorem exists_items_iff {naming : Naming} {text : List Char} :
    (∃ items, (splitAt ';' text).mapM (sortItem? naming) = some items) ↔ SortText text := by
  rw [splitAt_eq_splitOn, exists_mapM_eq_some, SortText]
  apply forall₂_congr
  intro entry _
  constructor
  · rintro ⟨item, read⟩
    obtain ⟨column, direction, asks, _⟩ := sortItem?_eq_some_iff.mp read
    exact ⟨column, direction, asks⟩
  · rintro ⟨column, direction, asks⟩
    exact ⟨_, sortItem?_eq_some_iff.mpr ⟨column, direction, asks, rfl⟩⟩

/-- A sort text is read as a whole when there is none, when it is blank, or when it
asks for an order in each of its parts. -/
theorem succeeds_compileSort {naming : Naming} {sort : Option String} :
    Succeeds (compileSort naming sort) ↔
      ∀ text ∈ sort, Blank text.toList ∨ SortText (trim text.toList) := by
  cases sort with
  | none => simp [compileSort, trim, trimStart]
  | some text =>
    simp only [compileSort, Option.getD_some, Option.mem_some_iff, forall_eq']
    by_cases blank : Blank text.toList
    · simp [trim_eq_nil_iff.mpr blank, blank]
    · have something : trim text.toList ≠ [] := fun nothing => blank (trim_eq_nil_iff.mp nothing)
      have parts := @exists_items_iff naming (trim text.toList)
      rw [if_neg (by simpa using something), ← parts]
      cases (splitAt ';' (trim text.toList)).mapM (sortItem? naming) <;> simp [blank]

end DomainSql
