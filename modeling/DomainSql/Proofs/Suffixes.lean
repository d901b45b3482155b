import DomainSql.Proofs.EntryMeaning

/-!
# Keys put together and taken apart

A key that is put together from a field and the suffix of an operator is taken apart into
the same two, unless the field ends in such a way that a longer suffix fits. Only two
suffixes are the end of another one, and both times the other one has `Not` in front of it.
So `stateNot` with the suffix of `In` is read as `state` with that of `NotIn`, and nothing
else is read in another way than it was written.
-/
namespace DomainSql.Operator

/-- The operator with `Not` in front of the suffix, where that is a suffix itself. -/
def negated? : Operator → Option Operator
  | isIn => some notIn
  | null => some notNull
  | _ => none

/-- Membership and null tests are the operators that can be negated by a word in front of their
suffix. -/
theorem negated?_eq_some_iff {operator negated : Operator} :
    operator.negated? = some negated ↔
      operator = isIn ∧ negated = notIn ∨ operator = null ∧ negated = notNull := by
  cases operator <;> simp [negated?, eq_comm]

/-- The negated operator has the word `Not` in front of the suffix. -/
theorem suffix_negated {operator negated : Operator}
    (negates : operator.negated? = some negated) :
    negated.suffix = "Not" ++ operator.suffix := by
  rcases negated?_eq_some_iff.mp negates with ⟨rfl, rfl⟩ | ⟨rfl, rfl⟩ <;> decide

/-- What has been negated is not negated again. -/
theorem negated?_eq_none {operator negated : Operator}
    (negates : operator.negated? = some negated) : negated.negated? = none := by
  rcases negated?_eq_some_iff.mp negates with ⟨_, rfl⟩ | ⟨_, rfl⟩ <;> decide

/-- A suffix is the end of no other one than its own with `Not` in front of it. -/
theorem eq_or_negated_of_isSuffix : ∀ short ∈ all, ∀ long ∈ all,
    short.suffix.toList <:+ long.suffix.toList → long = short ∨ short.negated? = some long := by
  decide

/-- A key is resolved to nothing else than what it denotes. -/
theorem resolve_eq_iff {key field : String} {operator : Operator} :
    resolve key = (field, operator) ↔ Denotes key field operator := by
  have denotes := denotes_resolve key
  constructor
  · intro resolved
    rwa [resolved] at denotes
  · intro denotesToo
    obtain ⟨sameField, sameOperator⟩ := denotes.unique denotesToo
    rw [sameField, sameOperator]

/-- A suffix behind a field is the one that counts, unless the field ends with the `Not` of a
longer suffix and is more than that. -/
theorem denotes_suffixed_iff {field : String} {operator : Operator} (notEmpty : field ≠ "") :
    Denotes (field ++ operator.suffix) field operator ↔
      ¬ ∃ rest negated, rest ≠ "" ∧ field = rest ++ "Not" ∧ operator.negated? = some negated := by
  have fits : operator.Fits (field ++ operator.suffix) field := ⟨notEmpty, rfl⟩
  constructor
  · rintro denotes ⟨rest, negated, restNotEmpty, ends, negates⟩
    have suffix := suffix_negated negates
    have fitsToo : negated.Fits (field ++ operator.suffix) rest :=
      ⟨restNotEmpty, by rw [ends, suffix, String.append_assoc]⟩
    generalize field ++ operator.suffix = key at denotes fits fitsToo
    cases denotes with
    | suffixed _ _ _ longest =>
      have notLonger := longest negated rest fitsToo
      rw [suffix, String.length_append] at notLonger
      have three : "Not".length = 3 := by decide
      omega
    | bare none => exact none _ _ fits
  · intro alone
    refine .suffixed field operator fits fun other rest fitsToo => ?_
    by_contra longer
    have within : operator.suffix.toList <:+ other.suffix.toList :=
      List.suffix_of_suffix_length_le fits.suffix_isSuffix fitsToo.suffix_isSuffix
        (Nat.le_of_not_le longer)
    rcases eq_or_negated_of_isSuffix operator operator.mem_all other other.mem_all within with
      same | negates
    · rw [same] at longer
      exact longer (Nat.le_refl _)
    · have sameKey := fitsToo.2
      rw [suffix_negated negates, ← String.append_assoc] at sameKey
      exact alone ⟨rest, other, fitsToo.1, (String.append_left_inj _).mp sameKey, negates⟩

/-- A suffix with `Not` in front of it is taken whole, if there is a field in front of it. -/
theorem denotes_negated {rest : String} {operator negated : Operator} (notEmpty : rest ≠ "")
    (negates : operator.negated? = some negated) :
    Denotes (rest ++ "Not" ++ operator.suffix) rest negated := by
  rw [String.append_assoc, ← suffix_negated negates, denotes_suffixed_iff notEmpty]
  rintro ⟨_, longer, _, _, negatesToo⟩
  rw [negated?_eq_none negates] at negatesToo
  cases negatesToo

/-- A key is taken apart into the field in front of the longest suffix that leaves a field,
or into itself and equality where there is no such suffix. What was put together from a field
and a suffix is taken apart into the same two, but for a field that ends with `Not` in front
of the suffixes of `In` and `Null`, where the `Not` belongs to the suffix as long as something
is left in front of it. -/
theorem resolve_splits :
    (∀ key field operator, resolve key = (field, operator) ↔ Denotes key field operator) ∧
    ∀ field operator, field ≠ "" →
      (resolve (field ++ operator.suffix) = (field, operator) ↔
        ¬ ((operator = isIn ∨ operator = null) ∧ ∃ rest, rest ≠ "" ∧ field = rest ++ "Not")) ∧
      ∀ rest, rest ≠ "" → field = rest ++ "Not" →
        (operator = isIn → resolve (field ++ operator.suffix) = (rest, notIn)) ∧
        (operator = null → resolve (field ++ operator.suffix) = (rest, notNull)) := by
  refine ⟨fun key field operator => resolve_eq_iff, fun field operator notEmpty => ⟨?_, ?_⟩⟩
  · rw [resolve_eq_iff, denotes_suffixed_iff notEmpty, not_iff_not]
    simp only [negated?_eq_some_iff]
    constructor
    · rintro ⟨rest, negated, restNotEmpty, ends, ⟨inList, _⟩ | ⟨nullTest, _⟩⟩
      · exact ⟨.inl inList, rest, restNotEmpty, ends⟩
      · exact ⟨.inr nullTest, rest, restNotEmpty, ends⟩
    · rintro ⟨inList | nullTest, rest, restNotEmpty, ends⟩
      · exact ⟨rest, notIn, restNotEmpty, ends, .inl ⟨inList, rfl⟩⟩
      · exact ⟨rest, notNull, restNotEmpty, ends, .inr ⟨nullTest, rfl⟩⟩
  · intro rest restNotEmpty ends
    rw [ends]
    constructor
    · intro inList
      rw [resolve_eq_iff, inList]
      exact denotes_negated restNotEmpty rfl
    · intro nullTest
      rw [resolve_eq_iff, nullTest]
      exact denotes_negated restNotEmpty rfl

/-- A field that ends with `Not` is split from a null test in the wrong place and from a search in
the right one. A field that is nothing but `Not` is split right, since a field is never empty. -/
theorem memoNot_splits :
    resolve ("memoNot" ++ null.suffix) = ("memo", notNull) ∧
    resolve ("memoNot" ++ start.suffix) = ("memoNot", start) ∧
    resolve ("Not" ++ isIn.suffix) = ("Not", isIn) := by
  obtain ⟨_, splits⟩ := resolve_splits
  refine ⟨?_, ?_, ?_⟩
  · exact ((splits "memoNot" null (by decide)).2 "memo" (by decide) (by decide)).2 rfl
  · refine (splits "memoNot" start (by decide)).1.mpr ?_
    rintro ⟨inList | nullTest, _⟩
    · cases inList
    · cases nullTest
  · refine (splits "Not" isIn (by decide)).1.mpr ?_
    rintro ⟨_, rest, notEmpty, ends⟩
    -- nothing is left in front of the field's own letters
    have noLetter : rest ++ "Not" = "" ++ "Not" := by rw [← ends, String.empty_append]
    exact notEmpty ((String.append_left_inj _).mp noLetter)

end DomainSql.Operator
