import DomainSql.Proofs.Words
import DomainSql.Request
import Mathlib.Data.List.Forall2

/-!
# What is left without the values

A request without its values is the request with every scalar of its filters, route
filters and rows masked. Its keys, the lengths of its arrays, and where it has a
scalar, an array or a mapping, stay as they are. Two masks are of interest: one that
hides a scalar altogether, and one that still shows whether it is null.

A statement without its values is the sequence of its fragments with every place
vacant. The text of the statement and the number of its arguments are those of its
outline, so statements of the same outline only differ in their arguments.
-/
namespace DomainSql

open Sql

/-- A scalar of which nothing is shown. -/
def Scalar.hidden : Scalar → Scalar := fun _ => .null

/-- A scalar of which nothing is shown but whether it is null. -/
def Scalar.presence : Scalar → Scalar
  | .null => .null
  | _ => .bool true

section
variable (mask : Scalar → Scalar)

mutual

/-- A value with all scalars in it masked. -/
def Value.masked : Value → Value
  | .scalar scalar => .scalar (mask scalar)
  | .array items => .array (maskedItems items)
  | .mapping entries => .mapping (maskedEntries entries)

/-- The values of an array, each of them masked. -/
def maskedItems : List Value → List Value
  | [] => []
  | item :: rest => item.masked :: maskedItems rest

/-- The entries of a mapping with their values masked. -/
def maskedEntries : List (String × Value) → List (String × Value)
  | [] => []
  | (key, value) :: rest => (key, value.masked) :: maskedEntries rest

end

/-- A route with its filters masked. -/
def DomainRoute.masked (route : DomainRoute) : DomainRoute :=
  { route with filters := maskedEntries mask route.filters }

/-- A request with its values masked. -/
def Request.masked (request : Request) : Request :=
  { request with
    filters := request.filters.map (maskedEntries mask)
    data := request.data.map (List.map (maskedEntries mask))
    domainRoute := request.domainRoute.map (DomainRoute.masked mask) }

end

/-- Two requests that are alike in all but the values of their scalars. -/
def Request.SameShape (left right : Request) : Prop :=
  left.masked Scalar.hidden = right.masked Scalar.hidden

/-- Two requests of the same shape that have null at the same places. -/
def Request.SameNulls (left right : Request) : Prop :=
  left.masked Scalar.presence = right.masked Scalar.presence

section
variable {mask : Scalar → Scalar}

/-- Two values are alike when a mask makes them equal. -/
def Value.Alike (mask : Scalar → Scalar) (left right : Value) : Prop :=
  left.masked mask = right.masked mask

/-- Two entries of mappings are alike when they have the same key and alike
values. -/
def EntryAlike (mask : Scalar → Scalar) (left right : String × Value) : Prop :=
  left.1 = right.1 ∧ left.2.Alike mask right.2

/-- A mask goes to every item. -/
theorem maskedItems_eq_map (items : List Value) :
    maskedItems mask items = items.map (Value.masked mask) := by
  induction items with
  | nil => rfl
  | cons item rest ih => simp [maskedItems, ih]

/-- A mask goes to every entry and leaves its key. -/
theorem maskedEntries_eq_map (entries : Mapping) :
    maskedEntries mask entries = entries.map fun entry => (entry.1, entry.2.masked mask) := by
  induction entries with
  | nil => rfl
  | cons entry rest ih =>
    obtain ⟨key, value⟩ := entry
    simp [maskedEntries, ih]

/-- Two lists have the same images when their entries have, one by one. -/
theorem map_eq_map_iff_forall₂ {α β γ : Type} {f : α → γ} {g : β → γ} {left : List α}
    {right : List β} :
    left.map f = right.map g ↔ List.Forall₂ (fun a b => f a = g b) left right := by
  rw [← List.forall₂_eq_eq_eq, List.forall₂_map_left_iff, List.forall₂_map_right_iff]

/-- Arrays are alike when their items are, one by one. -/
theorem maskedItems_eq_iff {left right : List Value} :
    maskedItems mask left = maskedItems mask right ↔
      List.Forall₂ (Value.Alike mask) left right := by
  rw [maskedItems_eq_map, maskedItems_eq_map, map_eq_map_iff_forall₂]
  rfl

/-- Mappings are alike when their entries are, one by one. -/
theorem maskedEntries_eq_iff {left right : Mapping} :
    maskedEntries mask left = maskedEntries mask right ↔
      List.Forall₂ (EntryAlike mask) left right := by
  rw [maskedEntries_eq_map, maskedEntries_eq_map, map_eq_map_iff_forall₂]
  simp only [Prod.mk.injEq]
  rfl

/-- Of two values that are alike both are scalars, or arrays, or mappings. -/
theorem Value.Alike.kinds {left right : Value} (alike : left.Alike mask right) :
    (∃ a b, left = .scalar a ∧ right = .scalar b ∧ mask a = mask b) ∨
    (∃ a b, left = .array a ∧ right = .array b ∧ List.Forall₂ (Value.Alike mask) a b) ∨
    ∃ a b, left = .mapping a ∧ right = .mapping b ∧ List.Forall₂ (EntryAlike mask) a b := by
  cases left <;> cases right <;> simp_all [Alike, masked, maskedItems_eq_iff, maskedEntries_eq_iff]

/-- Alike entries stand under the same key. -/
theorem EntryAlike.filter {left right : Mapping} (keep : String → Bool)
    (alike : List.Forall₂ (EntryAlike mask) left right) :
    List.Forall₂ (EntryAlike mask) (left.filter fun entry => keep entry.1)
      (right.filter fun entry => keep entry.1) := by
  apply List.rel_filter _ alike
  intro first second same
  show keep first.1 = true ↔ keep second.1 = true
  rw [same.1]

/-- The first entries whose keys meet a condition are alike too. -/
theorem EntryAlike.find? {left right : Mapping} (meets : String → Bool)
    (alike : List.Forall₂ (EntryAlike mask) left right) :
    Option.Rel (EntryAlike mask) (left.find? fun entry => meets entry.1)
      (right.find? fun entry => meets entry.1) := by
  induction alike with
  | nil => exact Option.Rel.none
  | @cons first second _ _ same _ ih =>
    simp only [List.find?_cons, ← same.1]
    cases meets first.1 with
    | true => exact Option.Rel.some same
    | false => exact ih

/-- Alike mappings have alike values under every key. -/
theorem EntryAlike.value? {left right : Mapping} (key : String)
    (alike : List.Forall₂ (EntryAlike mask) left right) :
    Option.Rel (Value.Alike mask) (Mapping.value? left key) (Mapping.value? right key) := by
  induction alike with
  | nil => exact Option.Rel.none
  | @cons first second _ _ same _ ih =>
    obtain ⟨shared, value⟩ := first
    obtain ⟨_, other⟩ := second
    obtain ⟨rfl, valueAlike⟩ := same
    simp only [Mapping.value?, List.lookup_cons]
    cases key == shared with
    | true => exact Option.Rel.some valueAlike
    | false => exact ih

/-- Alike mappings have the same keys in the same order. -/
theorem EntryAlike.keys {left right : Mapping}
    (alike : List.Forall₂ (EntryAlike mask) left right) :
    Mapping.keys left = Mapping.keys right :=
  map_eq_map_iff_forall₂.mpr (alike.imp fun _ _ same => same.1)

/-- Two routes that are alike in all but the values of their filters. -/
def DomainRoute.Alike (mask : Scalar → Scalar) (left right : DomainRoute) : Prop :=
  ∃ filters, right = { left with filters } ∧
    List.Forall₂ (EntryAlike mask) left.filters filters

/-- Two requests that are alike in all but their values, part by part. -/
structure Request.Alike (mask : Scalar → Scalar) (left right : Request) : Prop where
  operation : left.operation = right.operation
  domain : left.domain = right.domain
  page : left.page = right.page
  columns : left.columns = right.columns
  filters : Option.Rel (List.Forall₂ (EntryAlike mask)) left.filters right.filters
  data : Option.Rel (List.Forall₂ (List.Forall₂ (EntryAlike mask))) left.data right.data
  domainRoute : Option.Rel (DomainRoute.Alike mask) left.domainRoute right.domainRoute

/-- Routes that a mask makes equal are alike: it reaches nothing but their filters. -/
theorem DomainRoute.alike_of_masked {left right : DomainRoute}
    (same : left.masked mask = right.masked mask) : left.Alike mask right := by
  obtain ⟨path, reverse, filters, last⟩ := left
  obtain ⟨otherPath, otherReverse, others, otherLast⟩ := right
  simp only [masked, DomainRoute.mk.injEq] at same
  obtain ⟨rfl, rfl, sameFilters, rfl⟩ := same
  exact ⟨others, rfl, maskedEntries_eq_iff.mp sameFilters⟩

/-- Optional parts with the same image are both there or both not there. -/
theorem rel_of_map_eq {α β : Type} {f : α → β} {related : α → α → Prop} {left right : Option α}
    (same : left.map f = right.map f) (relate : ∀ a b, f a = f b → related a b) :
    Option.Rel related left right := by
  cases left <;> cases right
  · exact Option.Rel.none
  · simp at same
  · simp at same
  · exact Option.Rel.some (relate _ _ (Option.some.inj same))

/-- Requests that a mask makes equal are alike in every part. -/
theorem Request.alike_of_masked {left right : Request}
    (same : left.masked mask = right.masked mask) : left.Alike mask right := by
  simp only [masked, Request.mk.injEq] at same
  obtain ⟨operation, domain, page, filters, data, columns, domainRoute⟩ := same
  refine ⟨operation, domain, page, columns, ?_, ?_, ?_⟩
  · exact rel_of_map_eq filters fun _ _ => maskedEntries_eq_iff.mp
  · refine rel_of_map_eq data fun _ _ rows => ?_
    exact (map_eq_map_iff_forall₂.mp rows).imp fun _ _ => maskedEntries_eq_iff.mp
  · exact rel_of_map_eq domainRoute fun _ _ => DomainRoute.alike_of_masked

end

namespace Sql

/-- A fragment without the value of its place. -/
def Fragment.vacant : Fragment → Fragment
  | .text words => .text words
  | .place _ => .place .null

/-- Fragments without the values of their places. -/
def outline (fragments : List Fragment) : List Fragment := fragments.map Fragment.vacant

/-- Outlines may be put behind each other. -/
@[simp]
theorem outline_append (first second : List Fragment) :
    outline (first ++ second) = outline first ++ outline second := List.map_append

/-- Nothing has an empty outline. -/
@[simp]
theorem outline_nil : outline [] = [] := rfl

/-- A text is its own outline. -/
@[simp]
theorem outline_text (words : String) (rest : List Fragment) :
    outline (.text words :: rest) = .text words :: outline rest := rfl

/-- A place keeps nothing of its value. -/
@[simp]
theorem outline_place (value : Scalar) (rest : List Fragment) :
    outline (.place value :: rest) = .place .null :: outline rest := rfl

/-- The outline of a list is made of the outlines of its entries. -/
theorem outline_separated (separator : String) (parts : List (List Fragment)) :
    outline (separated separator parts) = separated separator (parts.map outline) := by
  induction parts with
  | nil => rfl
  | cons first rest ih =>
    cases rest with
    | nil => simp [separated]
    | cons second others => simp_all [separated]

/-- Lists with entries of the same outlines have the same outline. -/
theorem outline_separated_congr {separator : String} {left right : List (List Fragment)}
    (same : left.map outline = right.map outline) :
    outline (separated separator left) = outline (separated separator right) := by
  rw [outline_separated, outline_separated, same]

/-- The text of fragments is that of their outline. -/
theorem sql_prepare_outline (fragments : List Fragment) :
    (prepare (outline fragments)).sql = (prepare fragments).sql := by
  have shown : Fragment.shown ∘ Fragment.vacant = Fragment.shown := by
    funext fragment
    cases fragment <;> rfl
  rw [prepare, prepare, outline, List.map_map, shown]

/-- Fragments have as many arguments as their outline has places. -/
theorem length_arguments_outline (fragments : List Fragment) :
    (prepare (outline fragments)).arguments.length = (prepare fragments).arguments.length := by
  induction fragments with
  | nil => rfl
  | cons fragment rest ih =>
    cases fragment with
    | text words => simpa [arguments_text] using ih
    | place value => simpa [arguments_place] using ih

/-- Two conditions that differ in their values only. -/
def Condition.SameOutline (left right : Condition) : Prop :=
  outline left.render = outline right.render

/-- Two sub-selects that differ in their values only. -/
def SubSelect.SameOutline (left right : SubSelect) : Prop :=
  outline left.render = outline right.render

/-- Two statements that differ in their values only. -/
def Statement.SameOutline (left right : Statement) : Prop :=
  outline left.render = outline right.render

/-- Statements of the same outline have the same text and equally many arguments. -/
theorem Statement.SameOutline.prepared {left right : Statement} (same : left.SameOutline right) :
    left.prepare.sql = right.prepare.sql ∧
      left.prepare.arguments.length = right.prepare.arguments.length := by
  unfold Statement.prepare
  constructor
  · rw [← sql_prepare_outline, same, sql_prepare_outline]
  · rw [← length_arguments_outline, same, length_arguments_outline]

/-- Lists of equally many values have the same outline: a place for each of them. -/
theorem outline_valueList {left right : List Scalar} (asMany : left.length = right.length) :
    outline (valueList left) = outline (valueList right) := by
  have places (values : List Scalar) :
      (values.map fun value => [Fragment.place value]).map outline =
        List.replicate values.length [.place .null] := by
    simp [List.map_map, Function.comp_def, List.map_const']
  have same : outline (separated ", " (left.map fun value => [.place value])) =
      outline (separated ", " (right.map fun value => [.place value])) := by
    apply outline_separated_congr
    rw [places, places, asMany]
  simp [valueList, same]

/-- Conditions joined by a separator have the outlines of each of them. -/
theorem outline_renderConditions {separator : String} {left right : List Condition}
    (same : List.Forall₂ Condition.SameOutline left right) :
    outline (renderConditions separator left) = outline (renderConditions separator right) := by
  rw [renderConditions_eq_separated, renderConditions_eq_separated]
  apply outline_separated_congr
  rw [List.map_map, List.map_map]
  exact map_eq_map_iff_forall₂.mpr same

/-- Conditions with the same outlines have the same outline behind their keyword, which depends on
whether there are any. -/
theorem outline_renderWhere {left right : List Condition}
    (same : List.Forall₂ Condition.SameOutline left right) :
    outline (renderWhere left) = outline (renderWhere right) := by
  have keyword : whereKeyword left = whereKeyword right := by
    cases same <;> rfl
  rw [renderWhere, renderWhere, outline_append, outline_append, keyword,
    outline_renderConditions same]

/-- Sub-selects with the same outlines have the same outline when they are intersected. -/
theorem outline_renderSelects {left right : List SubSelect}
    (same : List.Forall₂ SubSelect.SameOutline left right) :
    outline (renderSelects left) = outline (renderSelects right) := by
  rw [renderSelects_eq_separated, renderSelects_eq_separated]
  apply outline_separated_congr
  rw [List.map_map, List.map_map]
  exact map_eq_map_iff_forall₂.mpr same

/-- A group differs in values only when its alternatives do, one by one. -/
theorem Condition.sameOutline_anyOf {left right : List Condition}
    (same : List.Forall₂ Condition.SameOutline left right) :
    (Condition.anyOf left).SameOutline (.anyOf right) := by
  simp [SameOutline, render, outline_renderConditions same]

/-- A test against sub-selects differs in values only when the sub-selects do, one by one. -/
theorem Condition.sameOutline_inSelects {column : ColumnName} {left right : List SubSelect}
    (same : List.Forall₂ SubSelect.SameOutline left right) :
    (Condition.inSelects column left).SameOutline (.inSelects column right) := by
  simp [SameOutline, render, outline_renderSelects same]

/-- A sub-select differs in values only when its conditions do. -/
theorem SubSelect.sameOutline_select {column : ColumnName} {source : TableName}
    {left right : List Condition} (same : List.Forall₂ Condition.SameOutline left right) :
    (SubSelect.select column source left).SameOutline (.select column source right) := by
  simp only [SameOutline, SubSelect.render_eq, outline_text, outline_renderWhere same]

/-- A selection differs in values only when its conditions do. What it selects, its order and its
window hold no values. -/
theorem Statement.sameOutline_select {projection : Projection} {source : TableName}
    {left right : List Condition} {order : List OrderItem} {window : Window}
    (same : List.Forall₂ Condition.SameOutline left right) :
    (Statement.select ⟨projection, source, left, order, window⟩).SameOutline
      (.select ⟨projection, source, right, order, window⟩) := by
  simp [SameOutline, Statement.render, Select.render, outline_renderWhere same]

/-- A removal differs in values only when its conditions do. -/
theorem Statement.sameOutline_delete {table : TableName} {left right : List Condition}
    (same : List.Forall₂ Condition.SameOutline left right) :
    (Statement.delete ⟨table, left⟩).SameOutline (.delete ⟨table, right⟩) := by
  simp [SameOutline, Statement.render, Delete.render, outline_renderWhere same]

/-- An update differs in values only when its assignments are to the same columns and its conditions
differ in values only. -/
theorem Statement.sameOutline_update {table : TableName}
    {left right : List (ColumnName × Scalar)} {ofLeft ofRight : List Condition}
    (columns : List.Forall₂ (fun a b => a.1 = b.1) left right)
    (same : List.Forall₂ Condition.SameOutline ofLeft ofRight) :
    (Statement.update ⟨table, left, ofLeft⟩).SameOutline (.update ⟨table, right, ofRight⟩) := by
  have assigned : outline (separated ", " (left.map renderAssignment)) =
      outline (separated ", " (right.map renderAssignment)) := by
    apply outline_separated_congr
    rw [List.map_map, List.map_map]
    refine map_eq_map_iff_forall₂.mpr (columns.imp fun a b column => ?_)
    simp [renderAssignment, column]
  simp [SameOutline, Statement.render, Update.render, assigned, outline_renderWhere same]

/-- An insert differs in values only when its rows have the same lengths. -/
theorem Statement.sameOutline_insert {table : TableName} {columns : List ColumnName}
    {left right : List (List Scalar)}
    (asLong : List.Forall₂ (fun a b => a.length = b.length) left right) :
    (Statement.insert ⟨table, columns, left⟩).SameOutline (.insert ⟨table, columns, right⟩) := by
  have tuples : outline (separated ", " (left.map valueList)) =
      outline (separated ", " (right.map valueList)) := by
    apply outline_separated_congr
    rw [List.map_map, List.map_map]
    exact map_eq_map_iff_forall₂.mpr (asLong.imp fun _ _ => outline_valueList)
  simp [SameOutline, Statement.render, Insert.render, tuples]

end Sql

end DomainSql
