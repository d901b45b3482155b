import DomainSql.Identifier
import DomainSql.Metadata.Naming

/-!
# Names made of plain names

Every name in a statement is a plain name of the request, the folded form of one,
or a template filled with such names; only the id column stands as it is. Folding
keeps a name plain. A filled template holds the characters outside of its places
and those of the names that were put in, so it is plain when the template leaves no
place open and is plain itself.
-/
namespace DomainSql

/-- A plain name is not empty, and its first character and the others are of the
right kind. -/
theorem isIdentifier_iff {name : String} :
    isIdentifier name = true ↔
      ∃ first rest, name.toList = first :: rest ∧ startsIdentifier first = true ∧
        ∀ c ∈ rest, continuesIdentifier c = true := by
  unfold isIdentifier
  cases name.toList with
  | nil => simp
  | cons first rest => simp [List.all_eq_true, and_assoc]

/-- A name may go on with any character that it may start with. -/
theorem continues_of_starts {c : Char} (starts : startsIdentifier c = true) :
    continuesIdentifier c = true := by
  simp only [startsIdentifier, continuesIdentifier, Char.isAlphanum, Bool.or_eq_true] at *
  rcases starts with letter | underscore
  · exact Or.inl (Or.inl letter)
  · exact Or.inr underscore

/-- A name may start with any character that it may go on with, digits apart. -/
theorem starts_of_continues {c : Char} (continues : continuesIdentifier c = true)
    (noDigit : c.isDigit = false) : startsIdentifier c = true := by
  simpa [startsIdentifier, continuesIdentifier, Char.isAlphanum, noDigit] using continues

/-- All characters of a plain name are of the kind that a name may go on with. -/
theorem continues_of_mem {name : String} (plain : isIdentifier name = true) {c : Char}
    (inside : c ∈ name.toList) : continuesIdentifier c = true := by
  obtain ⟨first, rest, letters, starts, continues⟩ := isIdentifier_iff.mp plain
  rw [letters] at inside
  rcases List.mem_cons.mp inside with rfl | inRest
  · exact continues_of_starts starts
  · exact continues c inRest

/-- A numeral has nothing but digits, with which a name may go on. -/
theorem continues_of_mem_repr {number : Nat} {c : Char} (inside : c ∈ number.repr.toList) :
    continuesIdentifier c = true := by
  rw [Nat.toList_repr] at inside
  have digit := Nat.isDigit_of_mem_toDigits (by decide) (by decide) inside
  simp [continuesIdentifier, Char.isAlphanum, digit]

/-- A letter is a capital or a small one. -/
theorem isAlpha_eq (c : Char) : c.isAlpha = (c.isUpper || c.isLower) := rfl

/-- The small form of a letter is a letter: it stands 32 places behind the capital
one. -/
theorem isAlpha_toLower {c : Char} (letter : c.isAlpha = true) : c.toLower.isAlpha = true := by
  unfold Char.toLower
  split
  · rename_i capital
    have low : 65 ≤ c.val.toNat := capital.1
    have high : c.val.toNat ≤ 90 := capital.2
    have shifted : (c.val + ('a'.val - 'A'.val)).toNat = c.val.toNat + 32 := by
      rw [UInt32.toNat_add]
      exact Nat.mod_eq_of_lt (show c.val.toNat + 32 < 2 ^ 32 by omega)
    have lowShifted : 97 ≤ (c.val + ('a'.val - 'A'.val)).toNat := by omega
    have highShifted : (c.val + ('a'.val - 'A'.val)).toNat ≤ 122 := by omega
    rw [isAlpha_eq, Bool.or_eq_true]
    refine Or.inr ?_
    exact Bool.and_eq_true_iff.mpr ⟨decide_eq_true lowShifted, decide_eq_true highShifted⟩
  · exact letter

/-- A name may start with the small form of a character if it may start with the character. -/
theorem startsIdentifier_toLower (c : Char) : startsIdentifier c.toLower = startsIdentifier c := by
  by_cases capital : c.isUpper = true
  · have letter : c.isAlpha = true := by rw [isAlpha_eq, capital, Bool.true_or]
    simp [startsIdentifier, isAlpha_toLower letter, letter]
  · have same : c.toLower = c := dif_neg fun inside => capital (decide_eq_true inside)
    rw [same]

namespace Naming

/-- Folding puts in nothing but underscores and small letters, where there were capital ones. -/
theorem all_continues_foldInner (cs : List Char) :
    (foldInner cs).all continuesIdentifier = cs.all continuesIdentifier := by
  induction cs with
  | nil => rfl
  | cons first rest ih =>
    unfold foldInner
    split
    · rename_i capital
      have letter : startsIdentifier first = true := by
        simp [startsIdentifier, isAlpha_eq, capital]
      have small := continues_of_starts ((startsIdentifier_toLower first).trans letter)
      have underscore : continuesIdentifier '_' = true := by decide
      simp only [List.all_cons, ih, underscore, small, continues_of_starts letter]
      rfl
    · rw [List.all_cons, List.all_cons, ih]

/-- The folded form of a name is plain exactly when the name is. -/
theorem isIdentifier_foldField (field : String) :
    isIdentifier (foldField field) = isIdentifier field := by
  unfold isIdentifier foldField
  cases field.toList with
  | nil => rfl
  | cons first rest =>
    simp only [String.toList_ofList, startsIdentifier_toLower, all_continues_foldInner]

/-- The column of a plain field is plain. -/
theorem isIdentifier_columnName (naming : Naming) {field : String}
    (plain : isIdentifier field = true) : isIdentifier (naming.columnName field) = true := by
  unfold columnName
  split
  · rw [isIdentifier_foldField, plain]
  · exact plain

end Naming

namespace Template

/-- The characters of a template outside of its places. -/
def outside : List Char → List Char
  | '{' :: '}' :: rest => outside rest
  | c :: rest => c :: outside rest
  | [] => []

/-- What stands outside of the places of a template is part of it. -/
theorem mem_of_mem_outside {c : Char} {template : List Char} (inside : c ∈ outside template) :
    c ∈ template := by
  fun_induction outside template with
  | case1 rest ih =>
    exact List.mem_cons_of_mem _ (List.mem_cons_of_mem _ (ih inside))
  | case2 first rest _ ih =>
    rcases List.mem_cons.mp inside with rfl | inRest
    · exact List.mem_cons_self
    · exact List.mem_cons_of_mem _ (ih inRest)
  | case3 => exact inside

/-- A character of a template stands outside of its places or is a brace of one. -/
theorem mem_outside_or_brace {c : Char} {template : List Char} (inside : c ∈ template) :
    c ∈ outside template ∨ (c = '{' ∨ c = '}') ∧ 0 < places template := by
  fun_induction outside template with
  | case1 rest ih =>
    simp only [List.mem_cons] at inside
    rcases inside with opening | closing | inRest
    · exact Or.inr ⟨Or.inl opening, Nat.succ_pos _⟩
    · exact Or.inr ⟨Or.inr closing, Nat.succ_pos _⟩
    · rcases ih inRest with found | ⟨brace, _⟩
      · exact Or.inl found
      · exact Or.inr ⟨brace, Nat.succ_pos _⟩
  | case2 first rest noPlace ih =>
    rw [places.eq_2 _ _ noPlace]
    rcases List.mem_cons.mp inside with rfl | inRest
    · exact Or.inl List.mem_cons_self
    · rcases ih inRest with found | brace
      · exact Or.inl (List.mem_cons_of_mem _ found)
      · exact Or.inr brace
  | case3 => exact absurd inside List.not_mem_nil

/-- What holds of the characters outside of the places of a template and of those of
the names holds of all characters of the filled template. Braces matter only where
there are more places than names. -/
theorem forall_mem_fill {property : Char → Prop} {template : List Char}
    {names : List (List Char)} (around : ∀ c ∈ outside template, property c)
    (named : ∀ name ∈ names, ∀ c ∈ name, property c)
    (unfilled : names.length < places template → property '{' ∧ property '}') :
    ∀ c ∈ fill template names, property c := by
  fun_induction fill template names with
  | case1 template =>
    intro c inside
    rcases mem_outside_or_brace inside with found | ⟨rfl | rfl, someOpen⟩
    · exact around c found
    · exact (unfilled someOpen).1
    · exact (unfilled someOpen).2
  | case2 names => simp
  | case3 rest name names ih =>
    obtain ⟨ofName, ofNames⟩ := List.forall_mem_cons.mp named
    have ofRest := ih around ofNames fun more => unfilled (by
      simp only [places, List.length_cons]
      omega)
    intro c inside
    rcases List.mem_append.mp inside with inName | inRest
    · exact ofName c inName
    · exact ofRest c inRest
  | case4 first rest name names noPlace ih =>
    rw [outside.eq_2 _ _ noPlace] at around
    rw [places.eq_2 _ _ noPlace] at unfilled
    obtain ⟨ofFirst, ofRest⟩ := List.forall_mem_cons.mp around
    exact List.forall_mem_cons.mpr ⟨ofFirst, ih ofRest named unfilled⟩

/-- A template is filled with plain names. It has the expected number of places, and
what stands outside of them is plain. -/
structure Plain (template : String) (count : Nat) : Prop where
  counted : Naming.placeholderCount template = count
  around : ∀ c ∈ outside template.toList, continuesIdentifier c = true
  start : ∀ c, template.toList.head? = some c → c.isDigit = false

/-- A plain template that is filled with plain names, one for each place, is a plain
name. -/
theorem Plain.isIdentifier_fill {template : String} {names : List String}
    (plain : Plain template names.length) (present : names ≠ [])
    (named : ∀ name ∈ names, isIdentifier name = true) :
    isIdentifier (Naming.fill template names) = true := by
  have continues : ∀ c ∈ fill template.toList (names.map String.toList),
      continuesIdentifier c = true := by
    apply forall_mem_fill plain.around
    · rw [List.forall_mem_map]
      intro name listed c inside
      exact continues_of_mem (named name listed) inside
    · intro more
      have counted := plain.counted
      rw [Naming.placeholderCount] at counted
      rw [List.length_map] at more
      omega
  obtain ⟨name, others, rfl⟩ := List.exists_cons_of_ne_nil present
  have starts : ∃ first rest, fill template.toList ((name :: others).map String.toList) =
      first :: rest ∧ startsIdentifier first = true := by
    rcases plain with ⟨counted, around, start⟩
    unfold Naming.placeholderCount at counted
    generalize template.toList = letters at counted around start
    fun_cases places letters with
    | case1 rest =>
      obtain ⟨first, tail, nameLetters, nameStarts, _⟩ :=
        isIdentifier_iff.mp (named name List.mem_cons_self)
      exact ⟨first, tail ++ fill rest (others.map String.toList), by
        simp [fill, nameLetters], nameStarts⟩
    | case2 first rest noPlace =>
      rw [outside.eq_2 _ _ noPlace] at around
      refine ⟨first, _, by rw [List.map_cons, fill.eq_4 _ _ _ _ noPlace], ?_⟩
      exact starts_of_continues (around first List.mem_cons_self) (start first rfl)
    | case3 => simp [places] at counted
  obtain ⟨first, rest, letters, firstStarts⟩ := starts
  refine isIdentifier_iff.mpr ⟨first, rest, by rw [Naming.fill, String.toList_ofList, letters],
    firstStarts, fun c inside => continues c (letters ▸ List.mem_cons_of_mem _ inside)⟩

end Template

namespace Naming

/-- A naming that makes plain names of plain names. -/
structure Plain (naming : Naming) : Prop where
  table : Template.Plain naming.tableFormat 1
  joinTable : Template.Plain naming.joinTableFormat 2
  joinId : Template.Plain naming.joinIdFormat 1
  idColumn : isIdentifier naming.idColumn = true

/-- The default naming is plain. -/
theorem plain_default : ({} : Naming).Plain where
  table := ⟨rfl, List.all_eq_true.mp (by decide), by rintro _ ⟨⟩; rfl⟩
  joinTable := ⟨rfl, List.all_eq_true.mp (by decide), by rintro _ ⟨⟩; rfl⟩
  joinId := ⟨rfl, List.all_eq_true.mp (by decide), by rintro _ ⟨⟩; rfl⟩
  idColumn := by decide

/-- A property of every name that comes into a statement by way of a naming: of
plain names, of what the templates make of plain names, and of the id column. -/
structure Gives (naming : Naming) (property : String → Prop) : Prop where
  plain : ∀ name, isIdentifier name = true → property name
  table : ∀ domain, isIdentifier domain = true → property (naming.tableName domain)
  joinTable : ∀ left right, isIdentifier left = true → isIdentifier right = true →
    property (naming.joinTableName left right)
  joinId : ∀ domain, isIdentifier domain = true → property (naming.joinIdColumn domain)
  idColumn : property naming.idColumn

/-- The column of a plain field has the property too. -/
theorem Gives.column {naming : Naming} {property : String → Prop}
    (gives : naming.Gives property) {field : String} (plain : isIdentifier field = true) :
    property (naming.columnName field) :=
  gives.plain _ (isIdentifier_columnName naming plain)

/-- A plain naming gives plain names only. -/
theorem Plain.gives {naming : Naming} (plain : naming.Plain) :
    naming.Gives (isIdentifier · = true) where
  plain _ isPlain := isPlain
  table domain isPlain := plain.table.isIdentifier_fill (by simp) (by simpa using isPlain)
  joinTable left right leftPlain rightPlain :=
    plain.joinTable.isIdentifier_fill (by simp) (by simp [leftPlain, rightPlain])
  joinId domain isPlain := plain.joinId.isIdentifier_fill (by simp) (by simpa using isPlain)
  idColumn := plain.idColumn

end Naming

end DomainSql
