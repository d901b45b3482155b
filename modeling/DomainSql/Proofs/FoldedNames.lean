import DomainSql.Proofs.Folding
import DomainSql.Proofs.PlainNames
import DomainSql.Proofs.RouteWalk

/-!
# Names that are folded

A name is checked before it is folded, and what is checked then is its folded form, too: the
one is plain exactly when the other is. A folded name has no capital letter, so folding it
again changes nothing.

Names in camel case are made of letters and digits and start with a small letter. The
underscores of their folded form are all put in by folding, one for each capital letter. So
these names are told by their folded form.
-/
namespace DomainSql.Naming

/-! ### Folding twice -/

/-- A folded text has no capital letter. -/
theorem noCapital_foldInner (letters : List Char) :
    ∀ c ∈ foldInner letters, c.isUpper = false := by
  induction letters with
  | nil => simp [foldInner]
  | cons first rest ih =>
    by_cases capital : first.isUpper = true
    · rw [foldInner_capital capital]
      refine List.forall_mem_cons.mpr ⟨by decide, List.forall_mem_cons.mpr ⟨?_, ih⟩⟩
      exact Char.isUpper_toLower_eq_false first
    · rw [foldInner_other (by simpa using capital)]
      exact List.forall_mem_cons.mpr ⟨by simpa using capital, ih⟩

/-- A folded column has no capital letter. -/
theorem noCapital_foldField (field : String) :
    ∀ c ∈ (foldField field).toList, c.isUpper = false := by
  unfold foldField
  cases field.toList with
  | nil => simp
  | cons first rest =>
    rw [String.toList_ofList]
    exact List.forall_mem_cons.mpr ⟨Char.isUpper_toLower_eq_false first, noCapital_foldInner rest⟩

/-- Letters without a capital one are not folded. -/
theorem foldInner_of_noCapital {letters : List Char}
    (noCapital : ∀ c ∈ letters, c.isUpper = false) : foldInner letters = letters := by
  induction letters with
  | nil => rfl
  | cons first rest ih =>
    obtain ⟨ofFirst, ofRest⟩ := List.forall_mem_cons.mp noCapital
    rw [foldInner_other ofFirst, ih ofRest]

/-- A field without a capital letter is not folded. -/
theorem foldField_of_noCapital {field : String}
    (noCapital : ∀ c ∈ field.toList, c.isUpper = false) : foldField field = field := by
  unfold foldField
  split
  · rename_i empty
    exact (String.toList_eq_nil_iff.mp empty).symm
  · rename_i first rest letters
    rw [letters] at noCapital
    obtain ⟨ofFirst, ofRest⟩ := List.forall_mem_cons.mp noCapital
    rw [Char.toLower_eq_of_not_isUpper (by simp [ofFirst]), foldInner_of_noCapital ofRest,
      ← letters, String.ofList_toList]

/-- A field that has been folded stays as it is. -/
theorem foldField_foldField (field : String) : foldField (foldField field) = foldField field :=
  foldField_of_noCapital (noCapital_foldField field)

/-! ### Names in camel case -/

/-- A name of letters and digits that starts with a small letter. -/
def CamelCase (name : String) : Prop :=
  ∃ first rest, name.toList = first :: rest ∧ first.isLower = true ∧
    ∀ c ∈ rest, c.isAlphanum = true

/-- Without underscores letters are folded alike only if they are the same. The underscore that
would stand for a capital letter is missing. -/
theorem FoldsAlike.eq {left right : List Char} (alike : FoldsAlike left right)
    (noUnderscore : '_' ∉ left) (noUnderscoreToo : '_' ∉ right) : left = right := by
  induction alike with
  | nil => rfl
  | same c _ ih =>
    rw [ih (List.not_mem_of_not_mem_cons noUnderscore)
      (List.not_mem_of_not_mem_cons noUnderscoreToo)]
  | capital _ _ _ => exact absurd List.mem_cons_self noUnderscoreToo
  | underscored _ _ _ => exact absurd List.mem_cons_self noUnderscore

/-- Names in camel case are told apart by how they are folded. Neither of two such names has an
underscore, which is the only letter that could stand for the fold of another. -/
theorem injOn_foldField : Set.InjOn foldField {name | CamelCase name} := by
  have noUnderscore {letters : List Char} (ofLetters : ∀ c ∈ letters, c.isAlphanum = true) :
      '_' ∉ letters := fun inside => absurd (ofLetters _ inside) (by decide)
  have kept {c : Char} (small : c.isLower = true) : c.toLower = c :=
    Char.toLower_eq_of_not_isUpper (Char.not_isUpper_of_isLower small)
  rintro field ⟨first, rest, letters, small, ofRest⟩ other ⟨second, behind, others, smallToo,
    ofBehind⟩ same
  have spelled := foldField_eq_iff.mp same
  rw [letters, others] at spelled
  cases spelled with
  | cons sameFirst alike =>
    rw [kept small, kept smallToo] at sameFirst
    have sameRest := alike.eq (noUnderscore ofRest) (noUnderscore ofBehind)
    rw [← String.toList_inj, letters, others, sameFirst, sameRest]

/-- Folding is safe on names. It keeps plain names plain and makes no other name plain, a second
time it does nothing, and it keeps names in camel case apart. So a field that has been checked
has a plain column, whether columns are folded or not. -/
theorem folded_names_safe :
    (∀ field, isIdentifier (foldField field) = true ↔ isIdentifier field = true) ∧
    (∀ field, foldField (foldField field) = foldField field) ∧
    Set.InjOn foldField {name | CamelCase name} ∧
    ∀ (naming : Naming) (key field : String), checkIdentifier key field = .ok () →
      isIdentifier (naming.columnName field) = true := by
  refine ⟨fun field => ?_, foldField_foldField, injOn_foldField, fun naming key field checked => ?_⟩
  · rw [isIdentifier_foldField]
  · exact isIdentifier_columnName naming (checkIdentifier_eq_ok.mp checked)

/-- Two names in camel case that differ in a capital letter only. -/
theorem userIDs_apart :
    CamelCase "userID2" ∧ CamelCase "userId2" ∧ foldField "userID2" = "user_i_d2" ∧
      foldField "userID2" ≠ foldField "userId2" ∧
      foldField (foldField "userID2") = foldField "userID2" ∧
      checkIdentifier "userID2Ge" "userID2" = .ok () ∧
      isIdentifier (({} : Naming).columnName "userID2") = true := by
  obtain ⟨_, twice, apart, plain⟩ := folded_names_safe
  have camel : CamelCase "userID2" :=
    ⟨'u', ['s', 'e', 'r', 'I', 'D', '2'], rfl, by decide, List.all_eq_true.mp (by decide)⟩
  have camelToo : CamelCase "userId2" :=
    ⟨'u', ['s', 'e', 'r', 'I', 'd', '2'], rfl, by decide, List.all_eq_true.mp (by decide)⟩
  have checked : checkIdentifier "userID2Ge" "userID2" = .ok () := rfl
  refine ⟨camel, camelToo, by decide, fun same => ?_, twice _, checked, plain {} _ _ checked⟩
  exact absurd (apart camel camelToo same) (by decide)

end DomainSql.Naming
