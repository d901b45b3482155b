import DomainSql.Proofs.ReadingConditions
import Std.Data.String.ToNat

/-!
# Statements can be read back

A statement is put together from clauses, each behind a keyword of its own and most
of them left out when they are empty. Its text with its arguments determines every
clause and everything inside it, so two statements that are given to a database in
the same way are the same statement.

Names may spell keywords. They do no harm, because a name is told by where it ends
and every keyword stands where no name can stand.
-/
namespace DomainSql.Sql

/-- The names of a statement are plain, and there is a sub-select where one is asked
for, at any depth. -/
def Statement.Readable (statement : Statement) : Prop :=
  (∀ name ∈ statement.names, isIdentifier name = true) ∧
    ∀ part ∈ statement.parts, part.selecting = true

/-- Conditions that are clear in all of their parts are readable. -/
theorem readable_of_parts {conditions : List Condition}
    (named : ∀ name ∈ namesOf conditions, isIdentifier name = true)
    (filled : ∀ part ∈ partsOf conditions, part.selecting = true) :
    ∀ condition ∈ conditions, condition.Readable := by
  intro condition listed part inPart
  have inside : part ∈ partsOf conditions := mem_partsOf.mpr ⟨condition, listed, inPart⟩
  constructor
  · intro name inNames
    exact named name (List.mem_flatMap.mpr ⟨part, inside, inNames⟩)
  · exact filled part inside

/-- The names that a statement has outside of its conditions are plain. -/
theorem Statement.Readable.own {statement : Statement} (readable : statement.Readable) :
    ∀ name ∈ statement.ownNames, isIdentifier name = true := by
  intro name listed
  exact readable.1 name (List.mem_append_left _ listed)

/-- The conditions of a readable statement are readable. -/
theorem Statement.Readable.conditions {statement : Statement} (readable : statement.Readable) :
    ∀ condition ∈ statement.conditions, condition.Readable := by
  apply readable_of_parts _ readable.2
  intro name listed
  exact readable.1 name (List.mem_append_right _ listed)

/-- Names between commas are told from each other. -/
theorem names_told {words : List String} (separating : separates ", " words = true)
    {first second : List String} {rest rest' : List Mark}
    (plain : ∀ name ∈ first, isIdentifier name = true)
    (plain' : ∀ name ∈ second, isIdentifier name = true)
    (closes : Closes words rest) (closes' : Closes words rest')
    (same : joined ", " (first.map letters) ++ rest = joined ", " (second.map letters) ++ rest') :
    first = second ∧ rest = rest' := by
  have each : ∀ a ∈ first, ∀ b ∈ second, Told letters EndsName a b := by
    intro a listed b listed' tail tail' ended ended' sameName
    exact name_told (plain a listed) (plain' b listed') ended ended' sameName
  have opens {names : List String} (arePlain : ∀ name ∈ names, isIdentifier name = true) :
      ∀ name ∈ names, Opens (letters name) := by
    intro name listed
    have start := opens_name (arePlain name listed) []
    rwa [List.append_nil] at start
  have between (tail : List Mark) : EndsName (letters ", " ++ tail) := by
    rintro c _ ⟨⟩
    decide
  have ended (tail : List Mark) (closesTail : Closes words tail) : EndsName tail :=
    closesTail.endsName (startsClosing_of_separates separating)
  exact joined_told between ended separating each (opens plain) (opens plain') closes closes' same

/-- Names leave their letters with commas between them. -/
theorem marks_nameList (names : List String) :
    marks (nameList names) = joined ", " (names.map letters) := by
  simp [nameList, Function.comp_def]

/-- A list of columns is not the mark for all of them. -/
theorem all_ne_columns {names : List String} (plain : ∀ name ∈ names, isIdentifier name = true)
    (rest rest' : List Mark) :
    letters "*" ++ rest ≠ joined ", " (names.map letters) ++ (letters " FROM " ++ rest') := by
  cases names with
  | nil => exact letters_append_ne (by decide) _ _
  | cons name others =>
    simp only [List.map_cons, joined, List.append_assoc]
    exact (name_ne_word (plain name List.mem_cons_self) (by decide) _ _).symm

/-- A list of columns is not the number of rows, even if its first column is called
`COUNT`: a parenthesis follows here, and there a comma or the end of the list. -/
theorem count_ne_columns {names : List String}
    (plain : ∀ name ∈ names, isIdentifier name = true) (rest rest' : List Mark) :
    letters "COUNT(*)" ++ rest ≠
      joined ", " (names.map letters) ++ (letters " FROM " ++ rest') := by
  cases names with
  | nil => exact letters_append_ne (by decide) _ _
  | cons name others =>
    have cut : letters "COUNT(*)" = letters "COUNT" ++ letters "(*)" := rfl
    rw [cut, List.append_assoc, List.map_cons, joined, List.append_assoc]
    intro same
    have parenthesis (tail : List Mark) : EndsName (letters "(*)" ++ tail) := by
      rintro c _ ⟨⟩
      decide
    have comma (tail : List Mark) : EndsName (letters ", " ++ tail) := by
      rintro c _ ⟨⟩
      decide
    have plainName := plain name List.mem_cons_self
    have plainWord : ∀ c ∈ "COUNT".toList, continuesIdentifier c = true :=
      List.all_eq_true.mp (by decide)
    cases others with
    | nil =>
      obtain ⟨_, behind⟩ := word_told plainWord (fun _ => continues_of_mem plainName)
        (parenthesis _) (endsName_letters (by decide) _) same
      exact absurd behind (letters_append_ne (by decide) _ _)
    | cons second more =>
      simp only [List.map_cons, List.flatMap_cons, List.append_assoc] at same
      obtain ⟨_, behind⟩ := word_told plainWord (fun _ => continues_of_mem plainName)
        (parenthesis _) (comma _) same
      exact absurd behind (letters_append_ne (by decide) _ _)

/-- The marks of what a selection gives. -/
def Projection.read : Projection → List Mark
  | .all => letters "*"
  | .count => letters "COUNT(*)"
  | .columns names => joined ", " (names.map letters)

/-- A projection leaves the marks that it is read by. -/
theorem marks_projection (projection : Projection) :
    marks projection.render = projection.read := by
  cases projection with
  | all => simp [Projection.render, Projection.read]
  | count => simp [Projection.render, Projection.read]
  | columns names => exact marks_nameList names

/-- What a selection gives is told in front of its source. -/
theorem projection_told {first second : Projection} {rest rest' : List Mark}
    (plain : ∀ name ∈ first.names, isIdentifier name = true)
    (plain' : ∀ name ∈ second.names, isIdentifier name = true)
    (same : first.read ++ (letters " FROM " ++ rest) =
      second.read ++ (letters " FROM " ++ rest')) :
    first = second ∧ rest = rest' := by
  cases first with
  | all =>
    cases second with
    | all => exact ⟨rfl, List.append_cancel_left (List.append_cancel_left same)⟩
    | count => exact absurd same (letters_append_ne (by decide) _ _)
    | columns names => exact absurd same (all_ne_columns plain' _ _)
  | count =>
    cases second with
    | all => exact absurd same (letters_append_ne (by decide) _ _)
    | count => exact ⟨rfl, List.append_cancel_left (List.append_cancel_left same)⟩
    | columns names => exact absurd same (count_ne_columns plain' _ _)
  | columns names =>
    cases second with
    | all => exact absurd same.symm (all_ne_columns plain _ _)
    | count => exact absurd same.symm (count_ne_columns plain _ _)
    | columns names' =>
      have closes (tail : List Mark) : Closes [" FROM "] (letters " FROM " ++ tail) :=
        closes_letters (by simp) tail
      obtain ⟨rfl, sameRest⟩ :=
        names_told (by decide) plain plain' (closes rest) (closes rest') same
      exact ⟨rfl, List.append_cancel_left sameRest⟩

/-- The marks of an ordering. -/
def OrderItem.read (item : OrderItem) : List Mark := marks item.render

/-- An entry of an order is read as its column and its direction. -/
theorem OrderItem.read_eq (item : OrderItem) :
    item.read = letters item.column ++ letters item.direction.keyword := by
  simp [read, render]

/-- An order leaves the marks of its entries behind its keyword, if it has entries. -/
theorem marks_renderOrder (order : List OrderItem) :
    marks (renderOrder order) = clause " ORDER BY " ", " (order.map OrderItem.read) := by
  have entries : (order.map OrderItem.render).map marks = order.map OrderItem.read := List.map_map
  unfold renderOrder clause
  cases order with
  | nil => rfl
  | cons item others =>
    rw [← entries]
    simp

/-- What may follow an ordering. -/
def afterOrder : List String := [" LIMIT ", " OFFSET "]

/-- Orders are told from each other, and from what stands behind them. -/
theorem order_told {first second : List OrderItem} {rest rest' : List Mark}
    (plain : ∀ item ∈ first, isIdentifier item.column = true)
    (plain' : ∀ item ∈ second, isIdentifier item.column = true)
    (closes : Closes afterOrder rest) (closes' : Closes afterOrder rest')
    (same : marks (renderOrder first) ++ rest = marks (renderOrder second) ++ rest') :
    first = second ∧ rest = rest' := by
  rw [marks_renderOrder, marks_renderOrder] at same
  have each : ∀ a ∈ first, ∀ b ∈ second, Told OrderItem.read (fun _ => True) a b := by
    rintro ⟨column, direction⟩ listed ⟨column', direction'⟩ listed' tail tail' _ _ sameItem
    have ends (direction : Direction) (behind : List Mark) :
        EndsName (letters direction.keyword ++ behind) := by
      apply endsName_letters
      cases direction <;> decide
    simp only [OrderItem.read_eq, List.append_assoc] at sameItem
    obtain ⟨rfl, sameDirection⟩ :=
      name_told (plain _ listed) (plain' _ listed') (ends _ _) (ends _ _) sameItem
    cases direction <;> cases direction'
    · exact ⟨rfl, List.append_cancel_left sameDirection⟩
    · exact absurd sameDirection (letters_append_ne (by decide) _ _)
    · exact absurd sameDirection (letters_append_ne (by decide) _ _)
    · exact ⟨rfl, List.append_cancel_left sameDirection⟩
  have opens {order : List OrderItem}
      (arePlain : ∀ item ∈ order, isIdentifier item.column = true) :
      ∀ item ∈ order, Opens item.read := by
    intro item listed
    rw [OrderItem.read_eq]
    exact opens_name (arePlain item listed) _
  exact clause_told (fun _ => trivial) (fun _ _ => trivial) (by decide) (by decide) each
    (opens plain) (opens plain') closes closes' same

/-- Bounds are told by their numerals, as long as what follows is not the keyword. -/
theorem bound_told {keyword : String} {words : List String}
    (keyed : separates keyword words = true) {first second : Option Nat}
    {rest rest' : List Mark} (closes : Closes words rest) (closes' : Closes words rest')
    (same : marks (renderBound keyword first) ++ rest =
      marks (renderBound keyword second) ++ rest') :
    first = second ∧ rest = rest' := by
  have closings := startsClosing_of_separates keyed
  cases first with
  | none =>
    cases second with
    | none => exact ⟨rfl, same⟩
    | some number =>
      simp only [renderBound, marks_text, marks_nil, List.nil_append, List.append_assoc] at same
      exact absurd same (closes.ne_separator keyed _)
  | some number =>
    cases second with
    | none =>
      simp only [renderBound, marks_text, marks_nil, List.nil_append, List.append_assoc] at same
      exact absurd same.symm (closes'.ne_separator keyed _)
    | some number' =>
      simp only [renderBound, marks_text, marks_nil, List.append_nil, List.append_assoc] at same
      obtain ⟨sameNumeral, sameRest⟩ := word_told (fun _ => continues_of_mem_repr)
        (fun _ => continues_of_mem_repr)
        (closes.endsName closings) (closes'.endsName closings) (List.append_cancel_left same)
      exact ⟨congrArg some (Nat.repr_inj.mp sameNumeral), sameRest⟩

/-- A bound closes what its keyword closes. -/
theorem closes_bound {words : List String} {rest : List Mark} (closes : Closes words rest)
    (keyword : String) (bound : Option Nat) :
    Closes (keyword :: words) (marks (renderBound keyword bound) ++ rest) := by
  cases bound with
  | none => exact closes.mono (List.subset_cons_self _ _)
  | some number =>
    simp only [renderBound, marks_text, List.append_assoc]
    exact closes_letters List.mem_cons_self _

/-- The given rows are told from each other. -/
theorem window_told {first second : Window}
    (same : marks first.render = marks second.render) : first = second := by
  obtain ⟨limit, offset⟩ := first
  obtain ⟨limit', offset'⟩ := second
  have nothing : Closes [] ([] : List Mark) := Or.inl rfl
  have closes (offset : Option UInt64) : Closes [" OFFSET "]
      (marks (renderBound " OFFSET " (offset.map UInt64.toNat)) ++ []) :=
    closes_bound nothing _ _
  have split : marks (renderBound " LIMIT " (limit.map UInt32.toNat)) ++
        (marks (renderBound " OFFSET " (offset.map UInt64.toNat)) ++ []) =
      marks (renderBound " LIMIT " (limit'.map UInt32.toNat)) ++
        (marks (renderBound " OFFSET " (offset'.map UInt64.toNat)) ++ []) := by
    simpa [Window.render] using same
  obtain ⟨sameLimit, behind⟩ := bound_told (by decide) (closes offset) (closes offset') split
  obtain ⟨sameOffset, _⟩ := bound_told (by decide) nothing nothing behind
  have limits : limit = limit' :=
    Option.map_injective (fun _ _ => UInt32.toNat_inj.mp) sameLimit
  have offsets : offset = offset' :=
    Option.map_injective (fun _ _ => UInt64.toNat_inj.mp) sameOffset
  rw [limits, offsets]

/-- The marks of a selection. -/
theorem marks_select (select : Select) :
    marks select.render = letters "SELECT " ++ (select.projection.read ++ (letters " FROM " ++
      (letters select.source ++ (readWhere select.conditions ++
        (marks (renderOrder select.order) ++ marks select.window.render))))) := by
  simp [Select.render, marks_projection, marks_renderWhere]

/-- Selections are told by their marks. The parts are told from left to right, each by what may
stand behind it. -/
theorem select_told {first second : Select} (readable : (Statement.select first).Readable)
    (readable' : (Statement.select second).Readable)
    (same : marks first.render = marks second.render) : first = second := by
  have own := readable.own
  have own' := readable'.own
  simp only [Statement.ownNames, List.cons_append, List.forall_mem_cons, List.forall_mem_append,
    List.forall_mem_map] at own own'
  obtain ⟨source, columns, ordered⟩ := own
  obtain ⟨source', columns', ordered'⟩ := own'
  have afterSource (select : Select) :
      Closes afterOrder (marks select.window.render) := by
    rw [Window.render, marks_append, ← List.append_nil (marks (renderBound " OFFSET " _))]
    exact closes_bound (closes_bound (Or.inl rfl) _ _) _ _
  have afterConditions (select : Select) :
      Closes afterWhere (marks (renderOrder select.order) ++ marks select.window.render) := by
    rw [marks_renderOrder]
    exact (closes_clause (afterSource select) _ _).mono (by decide)
  have ends (select : Select) : EndsName (readWhere select.conditions ++
      (marks (renderOrder select.order) ++ marks select.window.render)) :=
    (closes_clause (afterConditions select) _ _).endsName (by decide)
  rw [marks_select, marks_select] at same
  obtain ⟨sameProjection, fromProjection⟩ :=
    projection_told columns columns' (List.append_cancel_left same)
  obtain ⟨sameSource, fromSource⟩ :=
    name_told source source' (ends first) (ends second) fromProjection
  obtain ⟨sameConditions, fromConditions⟩ := readWhere_told readable.conditions
    readable'.conditions (afterConditions first) (afterConditions second) fromSource
  obtain ⟨sameOrder, sameWindow⟩ := order_told ordered ordered' (afterSource first)
    (afterSource second) fromConditions
  have windows := window_told sameWindow
  cases first
  cases second
  rw [Select.mk.injEq]
  exact ⟨sameProjection, sameSource, sameConditions, sameOrder, windows⟩

/-- The marks of an insertion. -/
theorem marks_insert (insert : Insert) :
    marks insert.render = letters "INSERT INTO " ++ (letters insert.table ++ (letters " (" ++
      (joined ", " (insert.columns.map letters) ++ (letters ") VALUES " ++
        joined ", " (insert.rows.map readValues))))) := by
  have rows : (insert.rows.map valueList).map marks = insert.rows.map readValues := by
    rw [List.map_map]
    apply List.map_congr_left
    intro row _
    exact marks_valueList row
  simp only [Insert.render, marks_text, marks_append, marks_nameList, marks_separated, rows]

/-- Inserts are told by their marks. -/
theorem insert_told {first second : Insert} (readable : (Statement.insert first).Readable)
    (readable' : (Statement.insert second).Readable)
    (same : marks first.render = marks second.render) : first = second := by
  obtain ⟨table, columns⟩ := List.forall_mem_cons.mp readable.own
  obtain ⟨table', columns'⟩ := List.forall_mem_cons.mp readable'.own
  have parenthesis (tail : List Mark) : EndsName (letters " (" ++ tail) :=
    endsName_letters (by decide) tail
  have closes (tail : List Mark) : Closes [") VALUES "] (letters ") VALUES " ++ tail) :=
    closes_letters (by simp) tail
  have nothing : Closes [] ([] : List Mark) := Or.inl rfl
  have each : ∀ a ∈ first.rows, ∀ b ∈ second.rows, Told readValues (fun _ => True) a b := by
    intro a _ b _ tail tail' _ _ sameRow
    exact readValues_told sameRow
  have opens (row : List Scalar) : Opens (readValues row) :=
    ⟨.inl '(', _, rfl, by rintro _ ⟨⟩; decide⟩
  rw [marks_insert, marks_insert] at same
  obtain ⟨sameTable, fromTable⟩ := name_told table table' (parenthesis _) (parenthesis _)
    (List.append_cancel_left same)
  obtain ⟨sameColumns, fromColumns⟩ := names_told (by decide) columns columns' (closes _)
    (closes _) (List.append_cancel_left fromTable)
  have sameLists := congrArg (· ++ []) (List.append_cancel_left fromColumns)
  obtain ⟨sameRows, _⟩ := joined_told (fun _ => trivial) (fun _ _ => trivial) (by decide) each
    (fun row _ => opens row) (fun row _ => opens row) nothing nothing sameLists
  cases first
  cases second
  rw [Insert.mk.injEq]
  exact ⟨sameTable, sameColumns, sameRows⟩

/-- The marks of an assignment. -/
def readAssignment (assignment : ColumnName × Scalar) : List Mark :=
  letters assignment.1 ++ (letters " = " ++ [.inr assignment.2])

/-- The marks of an update. -/
theorem marks_update (update : Update) :
    marks update.render = letters "UPDATE " ++ (letters update.table ++ (letters " SET " ++
      (joined ", " (update.assignments.map readAssignment) ++ readWhere update.conditions))) := by
  have assignments : (update.assignments.map renderAssignment).map marks =
      update.assignments.map readAssignment := List.map_map
  simp only [Update.render, marks_text, marks_append, marks_separated, assignments,
    marks_renderWhere]

/-- Updates are told by their marks. -/
theorem update_told {first second : Update} (readable : (Statement.update first).Readable)
    (readable' : (Statement.update second).Readable)
    (same : marks first.render = marks second.render) : first = second := by
  have own := readable.own
  have own' := readable'.own
  simp only [Statement.ownNames, List.forall_mem_cons, List.forall_mem_map] at own own'
  obtain ⟨table, columns⟩ := own
  obtain ⟨table', columns'⟩ := own'
  have equals (tail : List Mark) : EndsName (letters " = " ++ tail) :=
    endsName_letters (by decide) tail
  have each : ∀ a ∈ first.assignments, ∀ b ∈ second.assignments,
      Told readAssignment (fun _ => True) a b := by
    rintro ⟨column, value⟩ listed ⟨column', value'⟩ listed' tail tail' _ _ sameAssignment
    simp only [readAssignment, List.append_assoc] at sameAssignment
    obtain ⟨rfl, fromColumn⟩ := name_told (columns _ listed) (columns' _ listed') (equals _)
      (equals _) sameAssignment
    cases List.append_cancel_left fromColumn
    exact ⟨rfl, rfl⟩
  have nothing : Closes afterWhere ([] : List Mark) := Or.inl rfl
  have closes (update : Update) :
      Closes (" WHERE " :: afterWhere) (readWhere update.conditions ++ []) :=
    closes_clause nothing _ _
  rw [marks_update, marks_update] at same
  obtain ⟨sameTable, fromTable⟩ := name_told table table' (endsName_letters (by decide) _)
    (endsName_letters (by decide) _) (List.append_cancel_left same)
  have behind : joined ", " (first.assignments.map readAssignment) ++
        (readWhere first.conditions ++ []) =
      joined ", " (second.assignments.map readAssignment) ++
        (readWhere second.conditions ++ []) := by
    simpa using List.append_cancel_left fromTable
  obtain ⟨sameAssignments, fromAssignments⟩ := joined_told (fun _ => trivial)
    (fun _ _ => trivial) (by decide) each
    (fun assignment listed => opens_name (columns assignment listed) _)
    (fun assignment listed => opens_name (columns' assignment listed) _)
    (closes first) (closes second) behind
  obtain ⟨sameConditions, _⟩ := readWhere_told readable.conditions readable'.conditions nothing
    nothing fromAssignments
  cases first
  cases second
  rw [Update.mk.injEq]
  exact ⟨sameTable, sameAssignments, sameConditions⟩

/-- The marks of a removal. -/
theorem marks_delete (delete : Delete) :
    marks delete.render =
      letters "DELETE FROM " ++ (letters delete.table ++ readWhere delete.conditions) := by
  simp only [Delete.render, marks_text, marks_renderWhere]

/-- Removals are told by their marks. -/
theorem delete_told {first second : Delete} (readable : (Statement.delete first).Readable)
    (readable' : (Statement.delete second).Readable)
    (same : marks first.render = marks second.render) : first = second := by
  have table : isIdentifier first.table = true := readable.own _ List.mem_cons_self
  have table' : isIdentifier second.table = true := readable'.own _ List.mem_cons_self
  have nothing : Closes afterWhere ([] : List Mark) := Or.inl rfl
  have ends (delete : Delete) : EndsName (readWhere delete.conditions ++ []) :=
    (closes_clause nothing _ _).endsName (by decide)
  rw [marks_delete, marks_delete] at same
  have behind : letters first.table ++ (readWhere first.conditions ++ []) =
      letters second.table ++ (readWhere second.conditions ++ []) := by
    simpa using List.append_cancel_left same
  obtain ⟨sameTable, fromTable⟩ := name_told table table' (ends first) (ends second) behind
  obtain ⟨sameConditions, _⟩ := readWhere_told readable.conditions readable'.conditions nothing
    nothing fromTable
  cases first
  cases second
  rw [Delete.mk.injEq]
  exact ⟨sameTable, sameConditions⟩

/-- The word that a statement starts with. -/
def Statement.keyword : Statement → String
  | .select _ => "SELECT "
  | .insert _ => "INSERT INTO "
  | .update _ => "UPDATE "
  | .delete _ => "DELETE FROM "

/-- A statement starts with the word of its kind. -/
theorem marks_statement (statement : Statement) :
    ∃ tail, marks statement.render = letters statement.keyword ++ tail := by
  cases statement with
  | select select => exact ⟨_, marks_select select⟩
  | insert insert => exact ⟨_, marks_insert insert⟩
  | update update => exact ⟨_, marks_update update⟩
  | delete delete => exact ⟨_, marks_delete delete⟩

/-- Statements are told by their marks. -/
theorem statement_told {first second : Statement} (readable : first.Readable)
    (readable' : second.Readable) (same : marks first.render = marks second.render) :
    first = second := by
  obtain ⟨tail, starts⟩ := marks_statement first
  obtain ⟨tail', starts'⟩ := marks_statement second
  have keywords : apart first.keyword second.keyword = false := by
    cases areApart : apart first.keyword second.keyword with
    | false => rfl
    | true => exact absurd (starts.symm.trans (same.trans starts')) (letters_append_ne areApart _ _)
  cases first with
  | select first =>
    cases second with
    | select second => rw [select_told readable readable' same]
    | _ =>
      simp only [Statement.keyword] at keywords
      exact absurd keywords (by decide)
  | insert first =>
    cases second with
    | insert second => rw [insert_told readable readable' same]
    | _ =>
      simp only [Statement.keyword] at keywords
      exact absurd keywords (by decide)
  | update first =>
    cases second with
    | update second => rw [update_told readable readable' same]
    | _ =>
      simp only [Statement.keyword] at keywords
      exact absurd keywords (by decide)
  | delete first =>
    cases second with
    | delete second => rw [delete_told readable readable' same]
    | _ =>
      simp only [Statement.keyword] at keywords
      exact absurd keywords (by decide)

/-- Plain names have no placeholder. -/
theorem noPlaceholder_names {names : List String}
    (plain : ∀ name ∈ names, isIdentifier name = true) :
    ∀ name ∈ names, Lacks placeholder name := by
  intro name listed
  exact foreign_placeholder.lacks_of_isIdentifier (plain name listed)

/-- Two statements, or two lists of conditions, that are given to a database in the
same way are the same. -/
theorem prepare_injective :
    (∀ first second : Statement, first.Readable → second.Readable →
      first.prepare = second.prepare → first = second) ∧
    ∀ first second : List Condition, (∀ condition ∈ first, condition.Readable) →
      (∀ condition ∈ second, condition.Readable) →
      prepare (renderWhere first) = prepare (renderWhere second) → first = second := by
  constructor
  · intro first second readable readable' same
    have worded {statement : Statement} (isReadable : statement.Readable) :
        Worded (Lacks placeholder) statement.render :=
      worded_statement noPlaceholder_fixedWords foreign_placeholder.lacks_repr
        (noPlaceholder_names isReadable.1)
    apply statement_told readable readable'
    exact marks_eq_of_prepare (worded readable) (worded readable') same
  · intro first second readable readable' same
    have nothing : Closes afterWhere ([] : List Mark) := Or.inl rfl
    have worded {conditions : List Condition}
        (areReadable : ∀ condition ∈ conditions, condition.Readable) :
        Worded (Lacks placeholder) (renderWhere conditions) := by
      apply worded_renderWhere noPlaceholder_fixedWords
      intro condition listed
      apply worded_condition noPlaceholder_fixedWords
      intro part inPart
      exact noPlaceholder_names (areReadable condition listed part inPart).1
    have sameMarks := marks_eq_of_prepare (worded readable) (worded readable') same
    rw [marks_renderWhere, marks_renderWhere] at sameMarks
    exact (readWhere_told readable readable' nothing nothing (congrArg (· ++ []) sameMarks)).1

/-- A request to remove the notes of a rank or without a title. -/
def obsoleteNotes : Request where
  operation := some "delete"
  domain := some "note"
  filters := some [("anyOr", .mapping [("rank", .integer 1), ("titleNull", .null)]),
    ("ageGt", .integer 9)]

/-- The conditions of the request. -/
def obsoleteConditions : List Condition :=
  [.anyOf [.compare "rank" .equal (.number (.integer 1)), .nullTest "title" .isNull],
    .compare "age" .greater (.number (.integer 9))]

/-- Conditions with the same columns and values in another group. -/
def otherConditions : List Condition :=
  [.anyOf [.compare "rank" .equal (.number (.integer 1)), .nullTest "title" .isNull,
    .compare "age" .greater (.number (.integer 9))]]

/-- The removal of notes is read back from its text and arguments, and so are its conditions.
Conditions that are grouped in another way have another text. -/
theorem obsoleteNotes_read_back :
    (∃ plan, (compile {} obsoleteNotes).outcome = .ok plan ∧
      plan.work.statements = [.delete ⟨"t_note", obsoleteConditions⟩]) ∧
    (∃ conditions, (obsoleteNotes.conditions {}).outcome = .ok conditions ∧
      conditions = obsoleteConditions) ∧
    prepare (renderWhere obsoleteConditions) ≠ prepare (renderWhere otherConditions) := by
  have clear : ∀ condition ∈ obsoleteConditions, condition.Readable := by
    unfold Condition.Readable Condition.Throughout Condition.Clear
    decide
  have otherClear : ∀ condition ∈ otherConditions, condition.Readable := by
    unfold Condition.Readable Condition.Throughout Condition.Clear
    decide
  obtain ⟨statements, conditions⟩ := prepare_injective
  refine ⟨⟨_, rfl, ?_⟩, ⟨_, rfl, ?_⟩, ?_⟩
  · exact congrArg (fun statement => [statement])
      (statements _ _ ⟨by decide, by decide⟩ ⟨by decide, by decide⟩ rfl)
  · exact conditions _ _ clear clear rfl
  · intro same
    have impossible := congrArg List.length (conditions _ _ clear otherClear same)
    exact absurd impossible (by decide)

end DomainSql.Sql
