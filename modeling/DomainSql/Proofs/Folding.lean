import DomainSql.Metadata.Naming
import Mathlib

/-!
# Fields with one column

A capital letter is folded to an underscore and the small letter. A field that is spelled
with the underscore and the small letter is left as it is, so both have the same column. At
the start of a field there is no underscore, and a leading letter only loses its case.

Fields have the same column in no other way. The folded form is read from the left: where a
capital letter was, there is an underscore in front of a small letter, and neither of them
is folded itself.
-/
namespace DomainSql.Naming

/-- Letters behind the first one that are folded alike: where one field has a capital
letter, the other one may have an underscore and the small letter. -/
inductive FoldsAlike : List Char → List Char → Prop
  | nil : FoldsAlike [] []
  | same (c : Char) {left right : List Char} :
    FoldsAlike left right → FoldsAlike (c :: left) (c :: right)
  | capital {c : Char} {left right : List Char} : c.isUpper = true →
    FoldsAlike left right → FoldsAlike (c :: left) ('_' :: c.toLower :: right)
  | underscored {c : Char} {left right : List Char} : c.isUpper = true →
    FoldsAlike left right → FoldsAlike ('_' :: c.toLower :: left) (c :: right)

/-- Fields that differ in their spelling only: in the case of the first letter, and behind
it in capital letters against underscores. -/
inductive SpelledAlike : List Char → List Char → Prop
  | nil : SpelledAlike [] []
  | cons {first second : Char} {left right : List Char} : first.toLower = second.toLower →
    FoldsAlike left right → SpelledAlike (first :: left) (second :: right)

section
variable {c : Char} {letters rest : List Char}

/-- A capital letter is folded into an underscore and its small letter. -/
@[simp]
theorem foldInner_capital (capital : c.isUpper = true) :
    foldInner (c :: rest) = '_' :: c.toLower :: foldInner rest := by
  simp [foldInner, capital]

/-- Every other character stays. -/
@[simp]
theorem foldInner_other (notCapital : c.isUpper = false) :
    foldInner (c :: rest) = c :: foldInner rest := by
  simp [foldInner, notCapital]

/-- The small form of a capital letter is no underscore. -/
theorem toLower_ne_underscore (capital : c.isUpper = true) : c.toLower ≠ '_' := by
  intro underscore
  have small : c.toLower.isLower = true := by simp [Char.isAlpha, capital]
  rw [underscore] at small
  exact absurd small (by decide)

/-- A capital letter is told by its small form. -/
theorem capital_told {d : Char} (capital : c.isUpper = true) (capitalToo : d.isUpper = true)
    (same : c.toLower = d.toLower) : c = d := by
  have upper := congrArg Char.toUpper same
  simpa [Char.toUpper_eq_of_not_isLower, Char.not_isLower_of_isUpper, capital, capitalToo]
    using upper

/-- Folding puts nothing but underscores in front of letters, so any other character at the
start of a folded text stood there before. -/
theorem exists_of_foldInner_eq_cons (noUnderscore : c ≠ '_')
    (folded : foldInner letters = c :: rest) :
    ∃ behind, letters = c :: behind ∧ foldInner behind = rest := by
  cases letters with
  | nil => simp [foldInner] at folded
  | cons first behind =>
    by_cases capital : first.isUpper = true
    · rw [foldInner_capital capital] at folded
      exact absurd (List.cons.inj folded).1.symm noUnderscore
    · rw [foldInner_other (by simpa using capital)] at folded
      obtain ⟨sameFirst, sameRest⟩ := List.cons.inj folded
      exact ⟨behind, by rw [sameFirst], sameRest⟩

/-- Without a capital letter at its start, a text that is folded like one with a capital
letter has the underscore and the small letter. -/
theorem exists_underscored {d : Char} (capital : c.isUpper = true) (small : d.isUpper = false)
    (folded : foldInner (d :: letters) = '_' :: c.toLower :: rest) :
    d = '_' ∧ ∃ behind, letters = c.toLower :: behind ∧ foldInner behind = rest := by
  rw [foldInner_other small] at folded
  obtain ⟨underscore, behind⟩ := List.cons.inj folded
  exact ⟨underscore, exists_of_foldInner_eq_cons (toLower_ne_underscore capital) behind⟩

end

/-- Letters that are folded to the same text are folded alike. The induction is on the length
of the first text, because an underscore and a small letter are taken together. -/
theorem foldsAlike_of_foldInner_eq {left right : List Char}
    (same : foldInner left = foldInner right) : FoldsAlike left right := by
  induction bound : left.length using Nat.strong_induction_on generalizing left right with
  | h length ih =>
    cases left with
    | nil =>
      cases right with
      | nil => exact .nil
      | cons d right => by_cases capital : d.isUpper = true <;> simp_all [foldInner]
    | cons c left =>
      have shorter : left.length < length := by simp [← bound]
      by_cases capital : c.isUpper = true
      · rw [foldInner_capital capital] at same
        cases right with
        | nil => simp [foldInner] at same
        | cons d right =>
          by_cases capitalToo : d.isUpper = true
          · rw [foldInner_capital capitalToo] at same
            obtain ⟨sameLetter, sameRest⟩ := List.cons.inj (List.cons.inj same).2
            rw [capital_told capital capitalToo sameLetter]
            exact .same d (ih _ shorter sameRest rfl)
          · obtain ⟨rfl, behind, rfl, sameRest⟩ :=
              exists_underscored capital (by simpa using capitalToo) same.symm
            exact .capital capital (ih _ shorter sameRest.symm rfl)
      · have small : c.isUpper = false := by simpa using capital
        cases right with
        | nil => simp [foldInner, small] at same
        | cons d right =>
          by_cases capitalToo : d.isUpper = true
          · rw [foldInner_capital capitalToo] at same
            obtain ⟨rfl, behind, rfl, sameRest⟩ := exists_underscored capitalToo small same
            exact .underscored capitalToo (ih _ (by simp at shorter; omega) sameRest rfl)
          · rw [foldInner_other small, foldInner_other (by simpa using capitalToo)] at same
            obtain ⟨sameLetter, sameRest⟩ := List.cons.inj same
            rw [sameLetter]
            exact .same d (ih _ shorter sameRest rfl)

/-- Letters behind the first one are folded to the same text when they are folded alike. -/
theorem foldInner_eq_iff {left right : List Char} :
    foldInner left = foldInner right ↔ FoldsAlike left right := by
  refine ⟨foldsAlike_of_foldInner_eq, fun alike => ?_⟩
  induction alike with
  | nil => rfl
  | same c _ ih => by_cases capital : c.isUpper = true <;> simp_all [foldInner]
  | capital capital _ ih => simp [foldInner, capital, ih]
  | underscored capital _ ih => simp [foldInner, capital, ih]

/-- Fields are folded to the same text when they are spelled alike. -/
theorem foldField_eq_iff {field other : String} :
    foldField field = foldField other ↔ SpelledAlike field.toList other.toList := by
  unfold foldField
  generalize field.toList = letters
  generalize other.toList = others
  cases letters with
  | nil =>
    cases others with
    | nil => exact iff_of_true rfl .nil
    | cons second right => exact iff_of_false (by simp) (by rintro ⟨⟩)
  | cons first left =>
    cases others with
    | nil => exact iff_of_false (by simp) (by rintro ⟨⟩)
    | cons second right =>
      simp only [String.ofList_inj, List.cons.injEq, foldInner_eq_iff]
      constructor
      · rintro ⟨sameLetter, alike⟩
        exact .cons sameLetter alike
      · intro spelled
        cases spelled with
        | cons sameLetter alike => exact ⟨sameLetter, alike⟩

/-- Two fields have one column if they are spelled alike and columns are folded. -/
theorem columnName_eq_iff {naming : Naming} {field other : String} :
    naming.columnName field = naming.columnName other ↔
      field = other ∨ naming.foldCase = true ∧ SpelledAlike field.toList other.toList := by
  by_cases folds : naming.foldCase = true
  · simp only [columnName, folds, if_true, foldField_eq_iff, true_and]
    constructor
    · exact Or.inr
    · rintro (same | alike)
      · exact foldField_eq_iff.mp (congrArg foldField same)
      · exact alike
  · simp [columnName, folds]

end DomainSql.Naming
