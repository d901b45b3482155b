import DomainSql.Configuration
import DomainSql.Proofs.Outcomes
import DomainSql.Proofs.PlainNames
import Mathlib.Data.List.Basic

/-!
# Filled templates

A template is filled from the left. As long as there is a name and the rest of the template
has a place, the name goes into the first place, and the filling goes on behind that place.
It ends with all names used and all places filled exactly when there are as many names as
places, and then the text is made of the pieces between the places with a name in each gap.

A place cannot reach over the end of a piece, because its two braces are different. So the
pieces of a template are what is left when its places are taken out, and counting places
and filling them never disagree about where a place is.

What is put into a place is told by the text, whatever stands in the other places: the text
in front of the place and the text behind it are the same for every name.
-/
namespace DomainSql

namespace Template

/-- A place as it is written in a template. -/
def place : List Char := ['{', '}']

/-- A text without a place. -/
def Closed (text : List Char) : Prop := ¬ place <:+: text

/-- How a template is filled with names: the names that are not used, the rest of the
template behind the last place that is filled, and the text. -/
inductive Fills : (template : List Char) → (names unused : List (List Char)) →
    (rest text : List Char) → Prop
  /-- No name is left. -/
  | spent (rest : List Char) : Fills rest [] [] rest rest
  /-- No place is left. -/
  | closed {rest : List Char} (names : List (List Char)) : Closed rest →
    Fills rest names names rest rest
  /-- A name goes into the first place. -/
  | filled {piece behind name rest text : List Char} {names unused : List (List Char)} :
    Closed piece → Fills behind names unused rest text →
    Fills (piece ++ (place ++ behind)) (name :: names) unused rest (piece ++ (name ++ text))

/-- Pieces of a text with the names written between them. -/
def interleaved : List (List Char) → List (List Char) → List Char
  | piece :: pieces, name :: names => piece ++ (name ++ interleaved pieces names)
  | pieces, _ => pieces.flatten

section
variable {c : Char} {piece behind template : List Char}

/-- What is behind the first character of a closed text is closed. -/
theorem closed_of_cons (closed : Closed (c :: piece)) : Closed piece :=
  fun inside => closed (List.infix_cons inside)

/-- A closed text stays closed up to the first brace of a place behind it. -/
theorem not_place_of_closed (closed : Closed (c :: piece)) (rest : List Char) :
    c = '{' → piece ++ (place ++ behind) = '}' :: rest → False := by
  rintro rfl opened
  cases piece with
  | nil => exact absurd (List.cons.inj opened).1 (by decide)
  | cons d others =>
    obtain ⟨rfl, _⟩ := List.cons.inj opened
    exact closed ⟨[], others, rfl⟩

/-- A text has no place exactly when none is counted in it. -/
theorem places_eq_zero_iff {text : List Char} : places text = 0 ↔ Closed text := by
  unfold Closed
  fun_induction places text with
  | case1 rest ih => exact iff_of_false (Nat.succ_ne_zero _) (not_not.mpr ⟨[], rest, rfl⟩)
  | case2 first rest noPlace ih =>
    rw [ih, List.infix_cons_iff, not_or, iff_and_self]
    rintro _ ⟨others, opened⟩
    obtain ⟨rfl, sameRest⟩ := List.cons.inj opened
    exact noPlace others rfl sameRest.symm
  | case3 => exact iff_of_true rfl (by decide)

/-- A place behind a closed text is counted, and then the places behind it. -/
theorem places_append (closed : Closed piece) :
    places (piece ++ (place ++ behind)) = places behind + 1 := by
  induction piece with
  | nil => rfl
  | cons c piece ih =>
    rw [List.cons_append, places.eq_2 _ _ (not_place_of_closed closed), ih (closed_of_cons closed)]

/-- The place behind a closed text takes the first name. -/
theorem fill_append (closed : Closed piece) (name : List Char) (names : List (List Char)) :
    fill (piece ++ (place ++ behind)) (name :: names) = piece ++ (name ++ fill behind names) := by
  induction piece with
  | nil => rfl
  | cons c piece ih =>
    rw [List.cons_append, fill.eq_4 _ _ _ _ (not_place_of_closed closed),
      ih (closed_of_cons closed), List.cons_append]

/-- A text without a place takes no name. -/
theorem fill_of_closed (closed : Closed template) (names : List (List Char)) :
    fill template names = template := by
  fun_induction fill template names with
  | case1 => rfl
  | case2 => rfl
  | case3 rest => exact absurd ⟨[], rest, rfl⟩ closed
  | case4 first rest name names _ ih => rw [ih (closed_of_cons closed)]

/-- A template is closed or starts with a closed piece in front of its first place. -/
theorem closed_or_exists_first (template : List Char) :
    Closed template ∨
      ∃ piece behind, template = piece ++ (place ++ behind) ∧ Closed piece := by
  have empty : Closed [] := by unfold Closed; decide
  fun_induction places template with
  | case1 rest => exact .inr ⟨[], rest, rfl, empty⟩
  | case2 first rest noPlace ih =>
    rcases ih with closed | ⟨piece, behind, rfl, closed⟩
    · refine .inl ?_
      rw [← places_eq_zero_iff, places.eq_2 _ _ noPlace, places_eq_zero_iff.mpr closed]
    · refine .inr ⟨first :: piece, behind, rfl, ?_⟩
      rintro (inside : place <:+: first :: piece)
      rcases List.infix_cons_iff.mp inside with ⟨others, opened⟩ | within
      · obtain ⟨rfl, rfl⟩ := List.cons.inj opened
        exact noPlace _ rfl rfl
      · exact closed within
  | case3 => exact .inl empty

end

/-! ### How far a filling gets -/

section
variable {template rest text : List Char} {names unused : List (List Char)}

/-- Every template is filled in some way, and its text is the filled template. -/
theorem exists_fills (template : List Char) (names : List (List Char)) :
    ∃ unused rest, Fills template names unused rest (fill template names) := by
  induction names generalizing template with
  | nil =>
    rw [fill]
    exact ⟨[], template, .spent template⟩
  | cons name names ih =>
    rcases closed_or_exists_first template with closed | ⟨piece, behind, rfl, closed⟩
    · rw [fill_of_closed closed]
      exact ⟨name :: names, template, .closed _ closed⟩
    · obtain ⟨unused, rest, fills⟩ := ih behind
      rw [fill_append closed]
      exact ⟨unused, rest, .filled closed fills⟩

/-- The text of a filling is the filled template. -/
theorem Fills.text_eq (fills : Fills template names unused rest text) :
    text = fill template names := by
  induction fills with
  | spent rest => rw [fill]
  | closed names closed => rw [fill_of_closed closed]
  | filled closed _ ih => rw [fill_append closed, ih]

/-- A filling ends when there is no name or no place any more. Names and places are used up
together, one of each at a time. -/
theorem Fills.ends (fills : Fills template names unused rest text) :
    (unused = [] ∨ Closed rest) ∧
      places template + unused.length = names.length + places rest := by
  induction fills with
  | spent rest => exact ⟨.inl rfl, Nat.add_comm _ _⟩
  | closed names closed => exact ⟨.inr closed, Nat.add_comm _ _⟩
  | filled closed _ ih =>
    obtain ⟨exhausted, counted⟩ := ih
    refine ⟨exhausted, ?_⟩
    rw [places_append closed, List.length_cons]
    omega

/-- A filling uses all names and leaves no place open exactly when there are as many names
as places. -/
theorem Fills.complete_iff (fills : Fills template names unused rest text) :
    unused = [] ∧ Closed rest ↔ places template = names.length := by
  obtain ⟨exhausted, counted⟩ := fills.ends
  rw [← places_eq_zero_iff, ← List.length_eq_zero_iff] at *
  omega

/-- With a name for every place the text consists of the pieces of the template with a name
in each gap. -/
theorem exists_pieces (complete : places template = names.length) :
    ∃ pieces : List (List Char), pieces.length = names.length + 1 ∧
      (∀ piece ∈ pieces, Closed piece) ∧ template = place.intercalate pieces ∧
      fill template names = interleaved pieces names := by
  induction names generalizing template with
  | nil =>
    have closed : Closed template := places_eq_zero_iff.mp complete
    refine ⟨[template], rfl, List.forall_mem_singleton.mpr closed, ?_, ?_⟩
    · simp
    · rw [fill]
      simp [interleaved]
  | cons name names ih =>
    rcases closed_or_exists_first template with closed | ⟨piece, behind, rfl, closed⟩
    · rw [places_eq_zero_iff.mpr closed] at complete
      cases complete
    · rw [places_append closed, List.length_cons, Nat.add_right_cancel_iff] at complete
      obtain ⟨pieces, counted, allClosed, rfl, filled⟩ := ih complete
      refine ⟨piece :: pieces, ?_, List.forall_mem_cons.mpr ⟨closed, allClosed⟩, ?_, ?_⟩
      · rw [List.length_cons, counted, List.length_cons]
      · obtain ⟨next, others, rfl⟩ := List.exists_cons_of_length_eq_add_one counted
        simp [List.intercalate, List.intersperse]
      · rw [fill_append closed, filled, interleaved]

/-- Around the place that takes a name the text is the same for every name. -/
theorem exists_around {before : List (List Char)} (after : List (List Char))
    (reached : before.length < places template) :
    ∃ front back, ∀ name, fill template (before ++ name :: after) = front ++ (name ++ back) := by
  induction before generalizing template with
  | nil =>
    rcases closed_or_exists_first template with closed | ⟨piece, behind, rfl, closed⟩
    · rw [places_eq_zero_iff.mpr closed] at reached
      exact absurd reached (Nat.not_lt_zero _)
    · exact ⟨piece, fill behind after, fun name => fill_append closed name after⟩
  | cons first before ih =>
    rcases closed_or_exists_first template with closed | ⟨piece, behind, rfl, closed⟩
    · rw [places_eq_zero_iff.mpr closed] at reached
      exact absurd reached (Nat.not_lt_zero _)
    · rw [places_append closed, List.length_cons, Nat.add_lt_add_iff_right] at reached
      obtain ⟨front, back, around⟩ := ih reached
      refine ⟨piece ++ (first ++ front), back, fun name => ?_⟩
      rw [List.cons_append, fill_append closed, around]
      simp

end

end Template

namespace Naming

/-- What is put into a place is told by the filled template. -/
theorem fill_told {template : String} {before after : List String} {name other : String}
    (reached : before.length < placeholderCount template)
    (same : fill template (before ++ name :: after) = fill template (before ++ other :: after)) :
    name = other := by
  have reachedToo : (before.map String.toList).length < Template.places template.toList := by
    rwa [List.length_map]
  obtain ⟨front, back, around⟩ := Template.exists_around (after.map String.toList) reachedToo
  simp only [fill, List.map_append, List.map_cons, around, String.ofList_inj] at same
  exact String.toList_inj.mp (List.append_cancel_right (List.append_cancel_left same))

end Naming

namespace Configuration

/-- The templates of a valid configuration have as many places as names are put into them. -/
theorem counted_of_validate {configuration : Configuration} {metadata : Metadata}
    (valid : configuration.validate = .ok metadata) :
    Naming.placeholderCount metadata.naming.tableFormat = 1 ∧
      Naming.placeholderCount metadata.naming.joinTableFormat = 2 ∧
      Naming.placeholderCount metadata.naming.joinIdFormat = 1 := by
  have counted {field template : String} {expected : Nat} {passed : Unit}
      (checked : checkTemplate field template expected = .ok passed) :
      Naming.placeholderCount template = expected := by
    simpa [checkTemplate] using checked
  obtain ⟨_, table, valid⟩ := bind_eq_ok.mp valid
  obtain ⟨_, joinTable, valid⟩ := bind_eq_ok.mp valid
  obtain ⟨_, joinId, valid⟩ := bind_eq_ok.mp valid
  split at valid
  · cases valid
  · cases valid
    exact ⟨counted table, counted joinTable, counted joinId⟩

end Configuration

/-- A template is filled in one way. All names are used and no place is left open exactly
when there are as many names as places, and then the text is made of the pieces between the
places, with the names as they are in the gaps. So under a valid configuration a table and a
column in join tables are told by their domain, and a join table by either of its domains
when the other one is known. -/
theorem templates_fill_completely :
    (∀ (template : String) (names : List String),
      (∃ unused rest, Template.Fills template.toList (names.map String.toList) unused rest
        (Naming.fill template names).toList) ∧
      (∀ unused rest text,
        Template.Fills template.toList (names.map String.toList) unused rest text →
          text = (Naming.fill template names).toList ∧
          (unused = [] ∧ Template.Closed rest ↔
            Naming.placeholderCount template = names.length)) ∧
      (Naming.placeholderCount template = names.length →
        ∃ pieces : List (List Char), pieces.length = names.length + 1 ∧
          (∀ piece ∈ pieces, Template.Closed piece) ∧
          template.toList = Template.place.intercalate pieces ∧
          (Naming.fill template names).toList =
            Template.interleaved pieces (names.map String.toList))) ∧
    ∀ (configuration : Configuration) (metadata : Metadata),
      configuration.validate = .ok metadata →
      Function.Injective metadata.naming.tableName ∧
      Function.Injective metadata.naming.joinIdColumn ∧
      (∀ left, Function.Injective (metadata.naming.joinTableName left)) ∧
      ∀ right, Function.Injective fun left => metadata.naming.joinTableName left right := by
  refine ⟨fun template names => ?_, fun configuration metadata valid => ?_⟩
  · have letters : (Naming.fill template names).toList =
        Template.fill template.toList (names.map String.toList) := String.toList_ofList
    rw [letters, ← @List.length_map _ _ names String.toList]
    refine ⟨Template.exists_fills _ _, fun unused rest text fills => ?_, Template.exists_pieces⟩
    exact ⟨fills.text_eq, fills.complete_iff⟩
  · obtain ⟨table, joinTable, joinId⟩ := Configuration.counted_of_validate valid
    refine ⟨fun domain other same => ?_, fun domain other same => ?_,
      fun left domain other same => ?_, fun right domain other same => ?_⟩
    · exact @Naming.fill_told _ [] [] _ _ (by simp [table]) same
    · exact @Naming.fill_told _ [] [] _ _ (by simp [joinId]) same
    · exact @Naming.fill_told _ [left] [] _ _ (by simp [joinTable]) same
    · exact @Naming.fill_told _ [] [right] _ _ (by simp [joinTable]) same

/-- A configuration whose templates have braces around their places and places side by
side. -/
def bracedTables : Configuration where
  metadata := { naming := {
    tableFormat := "\x7b\x7b\x7d\x7d"
    joinTableFormat := "\x7b\x7d\x7b\x7d"
    joinIdFormat := "\x7d\x7b\x7d\x7b" } }

/-- Templates with single braces and with places side by side are filled as any other, also with a
name that looks like a place. -/
theorem bracedTables_fill :
    bracedTables.validate = .ok bracedTables.metadata ∧
      bracedTables.metadata.naming.joinTableName "\x7b\x7d" "x" = "\x7b\x7dx" ∧
      (∃ pieces : List (List Char), pieces.length = 3 ∧
        (∀ piece ∈ pieces, Template.Closed piece) ∧
        "\x7b\x7d\x7b\x7d".toList = Template.place.intercalate pieces ∧
        (Naming.fill "\x7b\x7d\x7b\x7d" ["\x7b\x7d", "x"]).toList =
          Template.interleaved pieces ["\x7b\x7d".toList, "x".toList]) ∧
      bracedTables.metadata.naming.tableName "\x7b" ≠
        bracedTables.metadata.naming.tableName "\x7d" := by
  obtain ⟨filled, told⟩ := templates_fill_completely
  have valid : bracedTables.validate = .ok bracedTables.metadata := by rfl
  refine ⟨valid, by decide, (filled _ ["\x7b\x7d", "x"]).2.2 (by decide), fun same => ?_⟩
  have sameDomain := (told bracedTables _ valid).1 same
  revert sameDomain
  decide

end DomainSql
