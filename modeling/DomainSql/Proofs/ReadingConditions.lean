import DomainSql.Proofs.Marks

/-!
# Reading conditions

A condition opens with its column and its operator, or with the parenthesis of a
group, and its opening tells what follows: a value, a list of values, alternatives
or sub-selects. Lists of values and sub-selects follow the same operator and differ
in what stands behind their parenthesis, as long as there is a sub-select.

What is inside a condition is told by induction, so it does not matter how deep
groups and sub-selects are nested.
-/
namespace DomainSql.Sql

/-- There is a sub-select where a condition asks for one. -/
def Condition.selecting : Condition → Bool
  | .inSelects _ selects => !selects.isEmpty
  | .compare .. | .member .. | .nullTest .. | .anyOf _ => true

/-- The names of a condition are plain, and there is a sub-select where it asks for
one. -/
def Condition.Clear (condition : Condition) : Prop :=
  (∀ name ∈ condition.names, isIdentifier name = true) ∧ condition.selecting = true

/-- A condition is clear at any depth. -/
def Condition.Readable (condition : Condition) : Prop := condition.Throughout Condition.Clear

/-- The names of a sub-select are plain, and its conditions are readable. -/
def SubSelect.Readable (select : SubSelect) : Prop :=
  (∀ name ∈ select.names, isIdentifier name = true) ∧
    ∀ condition ∈ select.conditions, condition.Readable

/-- A readable condition is clear itself. -/
theorem Condition.Readable.clear {condition : Condition} (readable : condition.Readable) :
    condition.Clear :=
  readable condition condition.mem_parts_self

/-- The alternatives of a readable condition are readable. -/
theorem Condition.Readable.alternatives {alternatives : List Condition}
    (readable : (Condition.anyOf alternatives).Readable) :
    ∀ condition ∈ alternatives, condition.Readable :=
  (throughout_anyOf.mp readable).2

/-- So are the sub-selects that it tests against. -/
theorem Condition.Readable.selects {column : ColumnName} {selects : List SubSelect}
    (readable : (Condition.inSelects column selects).Readable) :
    ∀ select ∈ selects, select.Readable := by
  intro select listed
  constructor
  · intro name inNames
    apply readable.clear.1
    exact List.mem_cons_of_mem _ (List.mem_flatMap.mpr ⟨select, listed, inNames⟩)
  · exact (throughout_inSelects.mp readable).2 select listed

/-- The operator behind the column of a condition. -/
inductive Relation where
  | compare (relation : Comparison)
  | member (test : Membership)
  | nullTest (test : NullTest)
deriving DecidableEq

namespace Relation

/-- An operator with blanks around it. -/
def keyword : Relation → String
  | compare relation => relation.keyword
  | member test => test.keyword
  | nullTest test => test.keyword

/-- All operators. -/
def all : List Relation :=
  [.compare .equal, .compare .notEqual, .compare .greater, .compare .greaterOrEqual,
    .compare .less, .compare .lessOrEqual, .compare .like, .compare .notLike, .member .isIn,
    .member .notIn, .nullTest .isNull, .nullTest .isNotNull]

/-- The list of relations leaves none out. -/
theorem mem_all (relation : Relation) : relation ∈ all := by
  rcases relation with relation | test | test
  · cases relation <;> decide
  · cases test <;> decide
  · cases test <;> decide

/-- No operator starts with another one. -/
theorem apart_of_mem : ∀ first ∈ all, ∀ second ∈ all,
    first = second ∨ apart first.keyword second.keyword = true := by
  decide

/-- Operators are told by their letters. -/
theorem told {first second : Relation} {rest rest' : List Mark}
    (same : letters first.keyword ++ rest = letters second.keyword ++ rest') :
    first = second ∧ rest = rest' := by
  rcases apart_of_mem first first.mem_all second second.mem_all with rfl | areApart
  · exact ⟨rfl, List.append_cancel_left same⟩
  · exact absurd same (letters_append_ne areApart rest rest')

/-- The name in front of an operator ends there. -/
theorem endsName (relation : Relation) (rest : List Mark) :
    EndsName (letters relation.keyword ++ rest) := by
  have blank : ∀ relation ∈ all, startsClosing relation.keyword = true := by decide
  exact endsName_letters (blank relation relation.mem_all) rest

end Relation

/-- The marks of a condition. -/
def Condition.read (condition : Condition) : List Mark := marks condition.render

/-- The marks of a sub-select. -/
def SubSelect.read (select : SubSelect) : List Mark := marks select.render

/-- The marks of conditions behind their keyword. -/
def readWhere (conditions : List Condition) : List Mark :=
  clause " WHERE " " AND " (conditions.map Condition.read)

/-- Conditions leave the marks that they are read by. -/
theorem map_marks_render (conditions : List Condition) :
    (conditions.map Condition.render).map marks = conditions.map Condition.read := List.map_map

/-- So do sub-selects. -/
theorem map_marks_renderSelect (selects : List SubSelect) :
    (selects.map SubSelect.render).map marks = selects.map SubSelect.read := List.map_map

/-- Conditions behind their keyword leave the marks that they are read by. -/
theorem marks_renderWhere (conditions : List Condition) :
    marks (renderWhere conditions) = readWhere conditions := by
  unfold renderWhere whereKeyword readWhere clause
  rw [marks_append, renderConditions_eq_separated, marks_separated, map_marks_render]
  cases conditions with
  | nil => rfl
  | cons condition rest => simp

/-- A sub-select is read as its words, its names and its conditions in turn. -/
theorem SubSelect.read_select (column : ColumnName) (source : TableName)
    (conditions : List Condition) :
    (SubSelect.select column source conditions).read =
      letters "SELECT " ++ (letters column ++ (letters " FROM " ++ (letters source ++
        readWhere conditions))) := by
  simp [read, render_eq, marks_renderWhere]

/-- The column and the operator that a condition opens with, if it is not a
group. -/
def Condition.opening : Condition → Option (ColumnName × Relation)
  | .compare column relation _ => some (column, .compare relation)
  | .member column test _ => some (column, .member test)
  | .nullTest column test => some (column, .nullTest test)
  | .anyOf _ => none
  | .inSelects column _ => some (column, .member .isIn)

/-- The marks of an opening. -/
def readOpening : Option (ColumnName × Relation) → List Mark
  | some (column, relation) => letters column ++ letters relation.keyword
  | none => letters "("

/-- The marks of values between parentheses. -/
def readValues (values : List Scalar) : List Mark :=
  letters "(" ++ (joined ", " (values.map fun value => [.inr value]) ++ letters ")")

/-- Values between parentheses leave themselves, with commas between them. -/
theorem marks_valueList (values : List Scalar) : marks (valueList values) = readValues values := by
  simp [valueList, readValues, Function.comp_def]

/-- The marks of a condition behind its opening. -/
def Condition.operand : Condition → List Mark
  | .compare _ _ value => [.inr value]
  | .member _ _ values => readValues values
  | .nullTest .. => []
  | .anyOf alternatives => joined " OR " (alternatives.map Condition.read) ++ letters ")"
  | .inSelects _ selects =>
    letters "(" ++ (joined " INTERSECT " (selects.map SubSelect.read) ++ letters ")")

/-- A condition is its opening and what follows it. -/
theorem Condition.read_eq (condition : Condition) :
    condition.read = readOpening condition.opening ++ condition.operand := by
  cases condition with
  | compare column relation value =>
    simp [read, render, opening, readOpening, operand, Relation.keyword]
  | member column test values =>
    simp [read, render, opening, readOpening, operand, Relation.keyword, marks_valueList]
  | nullTest column test =>
    simp [read, render, opening, readOpening, operand, Relation.keyword]
  | anyOf alternatives =>
    rw [read, render, marks_text, marks_append, renderConditions_eq_separated, marks_separated,
      map_marks_render]
    simp [opening, readOpening, operand]
  | inSelects column selects =>
    have cut : letters " IN (" = letters (Relation.member .isIn).keyword ++ letters "(" := rfl
    rw [read, render, marks_text, marks_text, marks_append, renderSelects_eq_separated,
      marks_separated, map_marks_renderSelect]
    simp [opening, readOpening, operand, cut]

/-- The opening of a readable condition has a plain column. -/
theorem Condition.Readable.column {condition : Condition} (readable : condition.Readable)
    {column : ColumnName} {relation : Relation}
    (opening : condition.opening = some (column, relation)) : isIdentifier column = true := by
  apply readable.clear.1
  cases condition <;> simp_all [Condition.opening, Condition.names]

/-- Every condition starts like an entry of a list. -/
theorem Condition.Readable.opens {condition : Condition} (readable : condition.Readable) :
    Opens condition.read := by
  rw [Condition.read_eq]
  cases opening : condition.opening with
  | none => exact ⟨.inl '(', condition.operand, rfl, by rintro _ ⟨⟩; decide⟩
  | some opened =>
    obtain ⟨column, relation⟩ := opened
    rw [readOpening, List.append_assoc]
    exact opens_name (readable.column opening) _

/-- Conditions are told by their openings first. -/
theorem opening_told {first second : Condition} {rest rest' : List Mark}
    (readable : first.Readable) (readable' : second.Readable)
    (same : readOpening first.opening ++ rest = readOpening second.opening ++ rest') :
    first.opening = second.opening ∧ rest = rest' := by
  cases opening : first.opening with
  | none =>
    cases opening' : second.opening with
    | none =>
      rw [opening, opening'] at same
      exact ⟨rfl, List.append_cancel_left same⟩
    | some opened =>
      obtain ⟨column, relation⟩ := opened
      rw [opening, opening', readOpening, readOpening, List.append_assoc] at same
      exact absurd same.symm (name_ne_word (readable'.column opening') (by decide) _ _)
  | some opened =>
    obtain ⟨column, relation⟩ := opened
    cases opening' : second.opening with
    | none =>
      rw [opening, opening', readOpening, readOpening, List.append_assoc] at same
      exact absurd same (name_ne_word (readable.column opening) (by decide) _ _)
    | some opened' =>
      obtain ⟨column', relation'⟩ := opened'
      rw [opening, opening', readOpening, readOpening, List.append_assoc,
        List.append_assoc] at same
      obtain ⟨rfl, sameRelation⟩ := name_told (readable.column opening)
        (readable'.column opening') (relation.endsName rest) (relation'.endsName rest') same
      obtain ⟨rfl, sameRest⟩ := Relation.told sameRelation
      exact ⟨rfl, sameRest⟩

/-- Values are told from each other. -/
theorem readValues_told {first second : List Scalar} {rest rest' : List Mark}
    (same : readValues first ++ rest = readValues second ++ rest') :
    first = second ∧ rest = rest' := by
  simp only [readValues, List.append_assoc, List.append_cancel_left_eq] at same
  have each : ∀ a ∈ first, ∀ b ∈ second,
      Told (fun value => ([Sum.inr value] : List Mark)) (fun _ => True) a b := by
    intro a _ b _ tail tail' _ _ sameValue
    simpa using sameValue
  have opens (values : List Scalar) :
      ∀ value ∈ values, Opens [Sum.inr value] := by
    intro value _
    exact ⟨.inr value, [], rfl, by simp⟩
  exact enclosed_told (fun _ => trivial) (fun _ _ => trivial) (by decide) each (opens first)
    (opens second) same

/-- What may follow conditions behind their keyword. -/
def afterWhere : List String := [")", " INTERSECT ", " ORDER BY ", " LIMIT ", " OFFSET "]

/-- Conditions behind their keyword are told from each other when every one of them
is. -/
theorem readWhere_told_of {first second : List Condition} {rest rest' : List Mark}
    (each : ∀ a ∈ first, ∀ b ∈ second, Told Condition.read (fun _ => True) a b)
    (readable : ∀ condition ∈ first, condition.Readable)
    (readable' : ∀ condition ∈ second, condition.Readable)
    (closes : Closes afterWhere rest) (closes' : Closes afterWhere rest')
    (same : readWhere first ++ rest = readWhere second ++ rest') :
    first = second ∧ rest = rest' :=
  clause_told (fun _ => trivial) (fun _ _ => trivial) (by decide) (by decide) each
    (fun condition listed => (readable condition listed).opens)
    (fun condition listed => (readable' condition listed).opens) closes closes' same

/-- What may follow a sub-select. -/
def afterSelect : List String := [")", " INTERSECT "]

/-- Sub-selects are told from each other when their conditions are. -/
theorem subSelect_told_of {first second : SubSelect}
    (each : ∀ a ∈ first.conditions, ∀ b ∈ second.conditions,
      Told Condition.read (fun _ => True) a b)
    (readable : first.Readable) (readable' : second.Readable) :
    Told SubSelect.read (Closes afterSelect) first second := by
  obtain ⟨column, source, conditions⟩ := first
  obtain ⟨column', source', conditions'⟩ := second
  obtain ⟨plain, ofConditions⟩ := readable
  obtain ⟨plain', ofConditions'⟩ := readable'
  simp only [SubSelect.names, List.forall_mem_cons] at plain plain'
  intro rest rest' closes closes' same
  have behind : Closes afterWhere rest := closes.mono (by decide)
  have behind' : Closes afterWhere rest' := closes'.mono (by decide)
  simp only [SubSelect.read_select, List.append_assoc, List.append_cancel_left_eq] at same
  obtain ⟨rfl, fromColumn⟩ := name_told plain.1 plain'.1 (endsName_letters (by decide) _)
    (endsName_letters (by decide) _) same
  obtain ⟨rfl, fromSource⟩ := name_told plain.2.1 plain'.2.1
    ((closes_clause behind _ _).endsName (by decide))
    ((closes_clause behind' _ _).endsName (by decide)) (List.append_cancel_left fromColumn)
  obtain ⟨rfl, sameRest⟩ :=
    readWhere_told_of each ofConditions ofConditions' behind behind' fromSource
  exact ⟨rfl, sameRest⟩

/-- A sub-select starts like an entry of a list. -/
theorem opens_subSelect (select : SubSelect) : Opens select.read := by
  obtain ⟨column, source, conditions⟩ := select
  rw [SubSelect.read_select]
  exact ⟨.inl 'S', _, rfl, by rintro _ ⟨⟩; decide⟩

/-- A list of values is not a list of sub-selects: behind the parenthesis stands a
value or the end of the list, and not the letter of a sub-select. -/
theorem member_ne_inSelects {column column' : ColumnName} {test : Membership}
    {values : List Scalar} {selects : List SubSelect}
    (readable : (Condition.inSelects column' selects).Readable) (rest rest' : List Mark) :
    (Condition.member column test values).operand ++ rest ≠
      (Condition.inSelects column' selects).operand ++ rest' := by
  have present : selects ≠ [] := by
    rintro rfl
    exact absurd readable.clear.2 Bool.false_ne_true
  obtain ⟨select, others, rfl⟩ := List.exists_cons_of_ne_nil present
  obtain ⟨column, source, conditions⟩ := select
  intro same
  simp only [Condition.operand, readValues, List.append_assoc, List.append_cancel_left_eq,
    List.map_cons, joined, SubSelect.read_select] at same
  cases values with
  | nil => exact absurd same (letters_append_ne (by decide) _ _)
  | cons value more => cases same

/-- Groups are told from each other when their alternatives are. -/
theorem alternatives_told {first second : List Condition} {rest rest' : List Mark}
    (readable : (Condition.anyOf first).Readable) (readable' : (Condition.anyOf second).Readable)
    (each : ∀ a ∈ first, ∀ b ∈ second, Told Condition.read (fun _ => True) a b)
    (same : (Condition.anyOf first).operand ++ rest = (Condition.anyOf second).operand ++ rest') :
    first = second ∧ rest = rest' := by
  simp only [Condition.operand, List.append_assoc] at same
  exact enclosed_told (fun _ => trivial) (fun _ _ => trivial) (by decide) each
    (fun a listed => (readable.alternatives a listed).opens)
    (fun b listed => (readable'.alternatives b listed).opens) same

/-- Sub-selects of two conditions are told from each other when their conditions are. -/
theorem selects_told {column column' : ColumnName} {first second : List SubSelect}
    {rest rest' : List Mark} (readable : (Condition.inSelects column first).Readable)
    (readable' : (Condition.inSelects column' second).Readable)
    (each : ∀ a ∈ first, ∀ b ∈ second, ∀ condition ∈ a.conditions, ∀ condition' ∈ b.conditions,
      Told Condition.read (fun _ => True) condition condition')
    (same : (Condition.inSelects column first).operand ++ rest =
      (Condition.inSelects column' second).operand ++ rest') :
    first = second ∧ rest = rest' := by
  simp only [Condition.operand, List.append_assoc, List.append_cancel_left_eq] at same
  have told : ∀ a ∈ first, ∀ b ∈ second, Told SubSelect.read (Closes afterSelect) a b := by
    intro a listed b listed'
    exact subSelect_told_of (each a listed b listed') (readable.selects a listed)
      (readable'.selects b listed')
  exact enclosed_told (fun tail => closes_letters (by decide) tail)
    (fun _ closes => closes.mono (by decide)) (by decide) told
    (fun select _ => opens_subSelect select) (fun select _ => opens_subSelect select) same

/-- Conditions are told from each other when those with the same opening are told by
what follows it. -/
theorem told_of_operands {first second : Condition} (readable : first.Readable)
    (readable' : second.Readable)
    (told : ∀ rest rest', first.opening = second.opening →
      first.operand ++ rest = second.operand ++ rest' → first = second ∧ rest = rest') :
    Told Condition.read (fun _ => True) first second := by
  intro rest rest' _ _ same
  rw [Condition.read_eq, Condition.read_eq, List.append_assoc, List.append_assoc] at same
  obtain ⟨opening, operands⟩ := opening_told readable readable' same
  exact told rest rest' opening operands

/-- Conditions are told from each other, whatever follows them. The induction is on
the first one; the openings leave only conditions of the same form to compare. -/
theorem condition_told {first second : Condition} (readable : first.Readable)
    (readable' : second.Readable) : Told Condition.read (fun _ => True) first second := by
  induction first generalizing second with
  | compare column relation value =>
    refine told_of_operands readable readable' fun rest rest' opening operands => ?_
    cases second with
    | compare column' relation' value' =>
      cases opening
      obtain ⟨sameValue, sameRest⟩ := List.cons.inj operands
      cases sameValue
      exact ⟨rfl, sameRest⟩
    | _ => cases opening
  | member column test values =>
    refine told_of_operands readable readable' fun rest rest' opening operands => ?_
    cases second with
    | member column' test' values' =>
      cases opening
      obtain ⟨rfl, sameRest⟩ := readValues_told operands
      exact ⟨rfl, sameRest⟩
    -- both openings may be the same here, but sub-selects do not start like values
    | inSelects => exact absurd operands (member_ne_inSelects readable' _ _)
    | _ => cases opening
  | nullTest column test =>
    refine told_of_operands readable readable' fun rest rest' opening operands => ?_
    cases second with
    | nullTest column' test' =>
      cases opening
      exact ⟨rfl, operands⟩
    | _ => cases opening
  | anyOf alternatives each =>
    refine told_of_operands readable readable' fun rest rest' opening operands => ?_
    cases second with
    | anyOf alternatives' =>
      obtain ⟨rfl, sameRest⟩ := alternatives_told readable readable' (fun a listed b listed' =>
        each a listed (readable.alternatives a listed) (readable'.alternatives b listed')) operands
      exact ⟨rfl, sameRest⟩
    | _ => cases opening
  | inSelects column selects each =>
    refine told_of_operands readable readable' fun rest rest' opening operands => ?_
    cases second with
    | inSelects column' selects' =>
      cases opening
      obtain ⟨rfl, sameRest⟩ := selects_told readable readable'
        (fun a listed b listed' condition inFirst condition' inSecond =>
          each a listed condition inFirst ((readable.selects a listed).2 condition inFirst)
            ((readable'.selects b listed').2 condition' inSecond)) operands
      exact ⟨rfl, sameRest⟩
    | member => exact absurd operands.symm (member_ne_inSelects readable _ _)
    | _ => cases opening

/-- Conditions behind their keyword are told from each other. -/
theorem readWhere_told {first second : List Condition} {rest rest' : List Mark}
    (readable : ∀ condition ∈ first, condition.Readable)
    (readable' : ∀ condition ∈ second, condition.Readable)
    (closes : Closes afterWhere rest) (closes' : Closes afterWhere rest')
    (same : readWhere first ++ rest = readWhere second ++ rest') :
    first = second ∧ rest = rest' := by
  apply readWhere_told_of _ readable readable' closes closes' same
  intro condition listed condition' listed'
  exact condition_told (readable condition listed) (readable' condition' listed')

end DomainSql.Sql
