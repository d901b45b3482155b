import DomainSql.Proofs.Parts

/-!
# What the text of a statement is made of

The fixed text of a rendered statement consists of the fixed words below, the names
of the statement, and the numerals of its bounds. Whatever holds of all of these
holds of every text fragment, so facts about the characters of a statement come down
to facts about its names.

Lists are rendered by functions of their own, next to the terms that they belong to.
All of them put one text between the renderings of their entries.
-/
namespace DomainSql.Sql

/-- A list of two or more entries starts with the first one and a separator. -/
theorem separated_cons_cons (separator : String) (first second : List Fragment)
    (others : List (List Fragment)) :
    separated separator (first :: second :: others) =
      first ++ .text separator :: separated separator (second :: others) := by
  simp [separated]

/-- Conditions are rendered with their separator between them. -/
theorem renderConditions_eq_separated (separator : String) (conditions : List Condition) :
    renderConditions separator conditions =
      separated separator (conditions.map Condition.render) := by
  induction conditions with
  | nil => rfl
  | cons first rest ih =>
    cases rest with
    | nil => simp [renderConditions, separated]
    | cons second others => simp_all [renderConditions, separated]

/-- Sub-selects are rendered with `INTERSECT` between them. -/
theorem renderSelects_eq_separated (selects : List SubSelect) :
    renderSelects selects = separated " INTERSECT " (selects.map SubSelect.render) := by
  induction selects with
  | nil => rfl
  | cons first rest ih =>
    cases rest with
    | nil => simp [renderSelects, separated]
    | cons second others => simp_all [renderSelects, separated]

/-- A sub-select is rendered with its conditions as any other selection. -/
theorem SubSelect.render_eq (column : ColumnName) (source : TableName)
    (conditions : List Condition) :
    (SubSelect.select column source conditions).render =
      .text "SELECT " :: .text column :: .text " FROM " :: .text source ::
        renderWhere conditions := by
  simp [render, renderWhere]

/-- A text in front of fragments goes to the front of their text. -/
theorem toList_sql_text (words : String) (rest : List Fragment) :
    (prepare (.text words :: rest)).sql.toList =
      words.toList ++ (prepare rest).sql.toList := by
  simp [prepare, Fragment.shown]

/-- A place in front of fragments puts a placeholder in front of their text. -/
theorem toList_sql_place (value : Scalar) (rest : List Fragment) :
    (prepare (.place value :: rest)).sql.toList =
      placeholder :: (prepare rest).sql.toList := by
  simp [prepare, Fragment.shown]

/-- A text adds no argument. -/
theorem arguments_text (words : String) (rest : List Fragment) :
    (prepare (.text words :: rest)).arguments = (prepare rest).arguments := rfl

/-- A place adds its value in front of the arguments behind it. -/
theorem arguments_place (value : Scalar) (rest : List Fragment) :
    (prepare (.place value :: rest)).arguments = value :: (prepare rest).arguments := rfl

/-- The words that rendering itself puts into a text. -/
def fixedWords : List String :=
  ["SELECT ", "*", "COUNT(*)", " FROM ", " WHERE ", " AND ", " OR ", " INTERSECT ", " IN (",
    "(", ")", ", ", " = ", " != ", " > ", " >= ", " < ", " <= ", " LIKE ", " NOT LIKE ", " IN ",
    " NOT IN ", " IS NULL", " IS NOT NULL", " ORDER BY ", " ASC", " DESC", " LIMIT ", " OFFSET ",
    "INSERT INTO ", " (", ") VALUES ", "UPDATE ", " SET ", "DELETE FROM "]

/-- The word for a comparison is fixed. -/
theorem Comparison.keyword_mem (relation : Comparison) : relation.keyword ∈ fixedWords := by
  cases relation <;> decide

/-- So is the one for a membership test. -/
theorem Membership.keyword_mem (test : Membership) : test.keyword ∈ fixedWords := by
  cases test <;> decide

/-- So is the one for a null test. -/
theorem NullTest.keyword_mem (test : NullTest) : test.keyword ∈ fixedWords := by
  cases test <;> decide

/-- So is the one for a direction. -/
theorem Direction.keyword_mem (direction : Direction) : direction.keyword ∈ fixedWords := by
  cases direction <;> decide

/-- A property of texts holds of all texts among fragments. -/
def Worded (property : String → Prop) (fragments : List Fragment) : Prop :=
  ∀ words, .text words ∈ fragments → property words

section
variable {property : String → Prop}

/-- Nothing holds no text. -/
@[simp]
theorem worded_nil : Worded property [] := by simp [Worded]

/-- A text is one of the texts among its fragments. -/
@[simp]
theorem worded_text {words : String} {rest : List Fragment} :
    Worded property (.text words :: rest) ↔ property words ∧ Worded property rest := by
  simp [Worded]

/-- A place is no text. -/
@[simp]
theorem worded_place {value : Scalar} {rest : List Fragment} :
    Worded property (.place value :: rest) ↔ Worded property rest := by
  simp [Worded]

/-- The texts among fragments are those of both parts. -/
@[simp]
theorem worded_append {first second : List Fragment} :
    Worded property (first ++ second) ↔ Worded property first ∧ Worded property second := by
  simp only [Worded, List.mem_append]
  grind

/-- What holds of the placeholder and of the characters of all texts holds of every character
of the text that fragments are put together to. -/
theorem forall_mem_sql {holds : Char → Prop} {fragments : List Fragment}
    (atPlace : holds placeholder)
    (worded : Worded (fun words => ∀ c ∈ words.toList, holds c) fragments) :
    ∀ c ∈ (prepare fragments).sql.toList, holds c := by
  induction fragments with
  | nil => simp [prepare]
  | cons fragment rest ih =>
    cases fragment with
    | text words =>
      obtain ⟨ofWords, ofRest⟩ := worded_text.mp worded
      rw [toList_sql_text]
      exact List.forall_mem_append.mpr ⟨ofWords, ih ofRest⟩
    | place value =>
      rw [toList_sql_place]
      exact List.forall_mem_cons.mpr ⟨atPlace, ih (worded_place.mp worded)⟩

/-- A list is worded as its separator and its entries are. -/
theorem worded_separated {separator : String} {parts : List (List Fragment)}
    (between : property separator) (each : ∀ part ∈ parts, Worded property part) :
    Worded property (separated separator parts) := by
  induction parts with
  | nil => simp [separated]
  | cons first rest ih =>
    have ofRest := ih fun part inside => each part (List.mem_cons_of_mem _ inside)
    cases rest with
    | nil => simpa [separated] using each first List.mem_cons_self
    | cons second others =>
      simpa [separated, between] using And.intro (each first List.mem_cons_self) ofRest

variable (fixed : ∀ words ∈ fixedWords, property words)
include fixed

/-- The placeholders of a list of values stand between fixed words. -/
theorem worded_valueList (values : List Scalar) : Worded property (valueList values) := by
  have places : Worded property (separated ", " (values.map fun value => [.place value])) :=
    worded_separated (fixed _ (by decide)) (by simp)
  simp [valueList, places, fixed "(" (by decide), fixed ")" (by decide)]

/-- A list of names holds the names and the commas between them. -/
theorem worded_nameList {names : List String} (named : ∀ name ∈ names, property name) :
    Worded property (nameList names) := by
  refine worded_separated (fixed _ (by decide)) ?_
  simpa using named

/-- Conditions behind `WHERE` are worded as each of them is. -/
theorem worded_renderWhere {conditions : List Condition}
    (each : ∀ condition ∈ conditions, Worded property condition.render) :
    Worded property (renderWhere conditions) := by
  have keyword : Worded property (whereKeyword conditions) := by
    unfold whereKeyword
    split <;> simp [fixed " WHERE " (by decide)]
  have joined : Worded property (renderConditions " AND " conditions) := by
    rw [renderConditions_eq_separated]
    exact worded_separated (fixed _ (by decide)) (by simpa using each)
  simp [renderWhere, keyword, joined]

/-- A sub-select holds its names and the texts of its conditions beside fixed words. -/
theorem worded_subSelect {select : SubSelect} (named : ∀ name ∈ select.names, property name)
    (each : ∀ condition ∈ select.conditions, Worded property condition.render) :
    Worded property select.render := by
  obtain ⟨column, source, conditions⟩ := select
  have columnNamed : property column := named column (by simp [SubSelect.names])
  have sourceNamed : property source := named source (by simp [SubSelect.names])
  have ofConditions : Worded property (renderWhere conditions) := worded_renderWhere fixed each
  simp [SubSelect.render_eq, columnNamed, sourceNamed, ofConditions,
    fixed "SELECT " (by decide), fixed " FROM " (by decide)]

/-- Sub-selects are worded as their own names and each of their conditions are. -/
theorem worded_selects {selects : List SubSelect}
    (named : ∀ select ∈ selects, ∀ name ∈ select.names, property name)
    (each : ∀ select ∈ selects, ∀ condition ∈ select.conditions,
      Worded property condition.render) :
    Worded property (renderSelects selects) := by
  rw [renderSelects_eq_separated]
  apply worded_separated (fixed _ (by decide))
  rw [List.forall_mem_map]
  intro select inside
  exact worded_subSelect fixed (named select inside) (each select inside)

/-- The text of a condition is made of fixed words and the names in it, at any
depth. -/
theorem worded_condition (condition : Condition)
    (named : ∀ part ∈ condition.parts, ∀ name ∈ part.names, property name) :
    Worded property condition.render := by
  induction condition with
  | compare column relation value =>
    have columnNamed : property column :=
      named _ (Condition.mem_parts_self _) column List.mem_cons_self
    simp [Condition.render, columnNamed, fixed _ relation.keyword_mem]
  | member column test values =>
    have columnNamed : property column :=
      named _ (Condition.mem_parts_self _) column List.mem_cons_self
    simp [Condition.render, columnNamed, fixed _ test.keyword_mem, worded_valueList fixed]
  | nullTest column test =>
    have columnNamed : property column :=
      named _ (Condition.mem_parts_self _) column List.mem_cons_self
    simp [Condition.render, columnNamed, fixed _ test.keyword_mem]
  | anyOf alternatives each =>
    have joined : Worded property (renderConditions " OR " alternatives) := by
      rw [renderConditions_eq_separated]
      apply worded_separated (fixed _ (by decide))
      rw [List.forall_mem_map]
      intro alternative inside
      apply each alternative inside
      intro part inPart
      apply named part
      exact List.mem_cons_of_mem _ (mem_partsOf.mpr ⟨alternative, inside, inPart⟩)
    simp [Condition.render, joined, fixed "(" (by decide), fixed ")" (by decide)]
  | inSelects column selects each =>
    have ownNames := named _ (Condition.mem_parts_self _)
    have columnNamed : property column := ownNames column List.mem_cons_self
    have joined : Worded property (renderSelects selects) := by
      apply worded_selects fixed
      · intro select inside name inNames
        apply ownNames name
        exact List.mem_cons_of_mem _ (List.mem_flatMap.mpr ⟨select, inside, inNames⟩)
      · intro select inside condition inSelect
        apply each select inside condition inSelect
        intro part inPart
        apply named part
        exact List.mem_cons_of_mem _ (mem_partsOfSelects.mpr
          ⟨select, inside, mem_partsOf.mpr ⟨condition, inSelect, inPart⟩⟩)
    simp [Condition.render, columnNamed, joined, fixed " IN (" (by decide),
      fixed ")" (by decide)]

/-- The text of conditions behind `WHERE` is made of fixed words and the names in
them. -/
theorem worded_where {conditions : List Condition}
    (named : ∀ name ∈ namesOf conditions, property name) :
    Worded property (renderWhere conditions) := by
  apply worded_renderWhere fixed
  intro condition inside
  apply worded_condition fixed
  intro part inPart name inNames
  exact named name (List.mem_flatMap.mpr ⟨part, mem_partsOf.mpr ⟨condition, inside, inPart⟩,
    inNames⟩)

/-- An order holds its columns and fixed words. -/
theorem worded_renderOrder {order : List OrderItem}
    (named : ∀ item ∈ order, property item.column) : Worded property (renderOrder order) := by
  have items : Worded property (separated ", " (order.map OrderItem.render)) := by
    apply worded_separated (fixed _ (by decide))
    rw [List.forall_mem_map]
    intro item inside
    simp [OrderItem.render, named item inside, fixed _ item.direction.keyword_mem]
  unfold renderOrder
  split <;> simp [items, fixed " ORDER BY " (by decide)]

variable (numeral : ∀ number : Nat, property number.repr)

include numeral in
/-- A window holds fixed words and digits. -/
theorem worded_window (window : Window) : Worded property window.render := by
  have bound (keyword : String) (known : keyword ∈ fixedWords) (number : Option Nat) :
      Worded property (renderBound keyword number) := by
    cases number <;> simp [renderBound, fixed _ known, numeral]
  simp [Window.render, bound " LIMIT " (by decide), bound " OFFSET " (by decide)]

/-- A projection holds its names and fixed words. -/
theorem worded_projection {projection : Projection}
    (named : ∀ name ∈ projection.names, property name) : Worded property projection.render := by
  cases projection with
  | all => simp [Projection.render, fixed "*" (by decide)]
  | count => simp [Projection.render, fixed "COUNT(*)" (by decide)]
  | columns names => exact worded_nameList fixed named

include numeral in
/-- The text of a statement is made of fixed words, its names, and numerals. -/
theorem worded_statement {statement : Statement}
    (named : ∀ name ∈ statement.names, property name) : Worded property statement.render := by
  simp only [Statement.names, List.forall_mem_append] at named
  obtain ⟨own, inConditions⟩ := named
  have conditions := worded_where fixed inConditions
  cases statement with
  | select select =>
    simp only [Statement.ownNames, List.cons_append, List.forall_mem_cons,
      List.forall_mem_append, List.forall_mem_map] at own
    obtain ⟨source, projection, order⟩ := own
    simp only [Statement.conditions] at conditions
    simp [Statement.render, Select.render, source, worded_projection fixed projection,
      conditions, worded_renderOrder fixed order,
      worded_window fixed numeral, fixed "SELECT " (by decide), fixed " FROM " (by decide)]
  | insert insert =>
    obtain ⟨table, columns⟩ := List.forall_mem_cons.mp own
    have rows : Worded property (separated ", " (insert.rows.map valueList)) := by
      apply worded_separated (fixed _ (by decide))
      rw [List.forall_mem_map]
      intro row _
      exact worded_valueList fixed row
    simp [Statement.render, Insert.render, table, worded_nameList fixed columns, rows,
      fixed "INSERT INTO " (by decide), fixed " (" (by decide), fixed ") VALUES " (by decide)]
  | update update =>
    simp only [Statement.ownNames, List.forall_mem_cons, List.forall_mem_map] at own
    obtain ⟨table, columns⟩ := own
    have assigned : Worded property
        (separated ", " (update.assignments.map renderAssignment)) := by
      apply worded_separated (fixed _ (by decide))
      rw [List.forall_mem_map]
      intro assignment inside
      simp [renderAssignment, columns assignment inside, fixed " = " (by decide)]
    simp only [Statement.conditions] at conditions
    simp [Statement.render, Update.render, table, assigned, conditions,
      fixed "UPDATE " (by decide), fixed " SET " (by decide)]
  | delete delete =>
    have table := own delete.table List.mem_cons_self
    simp only [Statement.conditions] at conditions
    simp [Statement.render, Delete.render, table, conditions,
      fixed "DELETE FROM " (by decide)]

end

end DomainSql.Sql
