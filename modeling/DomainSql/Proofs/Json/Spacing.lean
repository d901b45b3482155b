import DomainSql.Proofs.Json.Tokens

/-!
# Spacing of written values

The compact and the indented text of a value differ in blanks only: those in front of an
item, of a key and of a closing bracket, and those behind a colon. What is said of every
spacing is said of both texts at once.
-/
namespace DomainSql

section
variable {motive : Value → Prop}
  (scalar : ∀ value, motive (.scalar value))
  (array : ∀ items, (∀ item ∈ items, motive item) → motive (.array items))
  (mapping : ∀ entries, (∀ entry ∈ entries, motive entry.2) → motive (.mapping entries))
include scalar array mapping

/-- What follows from the values directly inside a value holds of every value. -/
@[induction_eliminator]
theorem Value.induction (value : Value) : motive value := by
  refine @Value.rec motive (fun items => ∀ item ∈ items, motive item)
    (fun entries => ∀ entry ∈ entries, motive entry.2) (fun entry => motive entry.2)
    scalar array mapping ?_ ?_ ?_ ?_ ?_ value
  · exact fun _ absent => absurd absent List.not_mem_nil
  · intro first rest ofFirst ofRest
    exact List.forall_mem_cons.mpr ⟨ofFirst, ofRest⟩
  · exact fun _ absent => absurd absent List.not_mem_nil
  · intro first rest ofFirst ofRest
    exact List.forall_mem_cons.mpr ⟨ofFirst, ofRest⟩
  · exact fun _ _ ofValue => ofValue

end

namespace Json

/-- The blanks of a text: those in front of what stands on a level, and those behind a
colon. -/
structure Spacing where
  line : Nat → List Char
  colon : List Char
  line_blank : ∀ level, Blank (line level)
  colon_blank : Blank colon

/-- No blanks. -/
def Spacing.none : Spacing := ⟨fun _ => [], [], fun _ => blank_nil, blank_nil⟩

/-- The start of a new line is blank. -/
theorem blank_newline (level : Nat) : Blank (newline level) := by
  intro c inside
  rcases List.mem_cons.mp inside with rfl | inside
  · rfl
  · rw [List.eq_of_mem_replicate inside]
    rfl

/-- Each item and each key on a line of its own. -/
def Spacing.lines : Spacing :=
  ⟨newline, [' '], blank_newline, fun c inside => by rw [List.mem_singleton.mp inside]; rfl⟩

mutual

/-- The text of a value on a level. -/
def spaced (s : Spacing) (level : Nat) : Value → List Char
  | .scalar value => writeScalar value
  | .array [] => ['[', ']']
  | .array (first :: rest) =>
    '[' :: (s.line (level + 1) ++ (spaced s (level + 1) first ++
      (furtherItems s (level + 1) rest ++ (s.line level ++ [']']))))
  | .mapping [] => ['{', '}']
  | .mapping ((key, value) :: rest) =>
    '{' :: (s.line (level + 1) ++ (quote key ++ ':' :: (s.colon ++ (spaced s (level + 1) value ++
      (furtherEntries s (level + 1) rest ++ (s.line level ++ ['}']))))))

/-- The items behind the first one, each with its comma. -/
def furtherItems (s : Spacing) (level : Nat) : List Value → List Char
  | [] => []
  | item :: rest => ',' :: (s.line level ++ (spaced s level item ++ furtherItems s level rest))

/-- The entries behind the first one, each with its comma. -/
def furtherEntries (s : Spacing) (level : Nat) : List (String × Value) → List Char
  | [] => []
  | (key, value) :: rest =>
    ',' :: (s.line level ++ (quote key ++ ':' :: (s.colon ++ (spaced s level value ++
      furtherEntries s level rest))))

end

mutual

/-- The compact text has no blanks, whatever level it is told for. -/
theorem compact_eq (level : Nat) :
    (value : Value) → compact value = spaced .none level value
  | .scalar _ => rfl
  | .array [] => rfl
  | .array (first :: rest) => by
    rw [compact, spaced, compactItems_eq (level + 1) first rest]
    simp [Spacing.none]
  | .mapping [] => rfl
  | .mapping ((key, value) :: rest) => by
    rw [compact, spaced, compactEntries_eq (level + 1) key value rest]
    simp [Spacing.none]
termination_by value => sizeOf value

/-- Compact items are items with no spacing, the commas in front of the further ones. -/
theorem compactItems_eq (level : Nat) (first : Value) :
    (rest : List Value) → compactItems (first :: rest) =
      spaced .none level first ++ furtherItems .none level rest
  | [] => by rw [compactItems, furtherItems, compact_eq level first, List.append_nil]
  | next :: rest => by
    rw [compactItems, furtherItems, compact_eq level first, compactItems_eq level next rest]
    · rfl
    · exact nofun
termination_by rest => sizeOf first + sizeOf rest + 1

/-- Compact entries are entries with no spacing. -/
theorem compactEntries_eq (level : Nat) (key : String) (value : Value) :
    (rest : List (String × Value)) → compactEntries ((key, value) :: rest) =
      quote key ++ ':' :: (spaced .none level value ++ furtherEntries .none level rest)
  | [] => by rw [compactEntries, furtherEntries, compact_eq level value, List.append_nil]
  | (next, content) :: rest => by
    rw [compactEntries, furtherEntries, compact_eq level value,
      compactEntries_eq level next content rest]
    · rfl
    · exact nofun
termination_by rest => sizeOf value + sizeOf rest + 1

end

mutual

/-- The indented text has each item and each key on a line of its own. -/
theorem indented_eq (level : Nat) :
    (value : Value) → indented level value = spaced .lines level value
  | .scalar _ => rfl
  | .array [] => rfl
  | .array (first :: rest) => by
    rw [indented, spaced, indentedItems_eq (level + 1) first rest]
    · simp [Spacing.lines]
    · exact nofun
  | .mapping [] => rfl
  | .mapping ((key, value) :: rest) => by
    rw [indented, spaced, indentedEntries_eq (level + 1) key value rest]
    · simp [Spacing.lines]
    · exact nofun
termination_by value => sizeOf value

/-- Items on lines of their own are items with that spacing. -/
theorem indentedItems_eq (level : Nat) (first : Value) :
    (rest : List Value) → indentedItems level (first :: rest) =
      newline level ++ (spaced .lines level first ++ furtherItems .lines level rest)
  | [] => by rw [indentedItems, furtherItems, indented_eq level first, List.append_nil]
  | next :: rest => by
    rw [indentedItems, furtherItems, indented_eq level first, indentedItems_eq level next rest,
      List.append_assoc]
    · rfl
    · exact nofun
termination_by rest => sizeOf first + sizeOf rest + 1

/-- Entries on lines of their own are entries with that spacing. -/
theorem indentedEntries_eq (level : Nat) (key : String) (value : Value) :
    (rest : List (String × Value)) → indentedEntries level ((key, value) :: rest) =
      newline level ++ (quote key ++ ':' :: ' ' ::
        (spaced .lines level value ++ furtherEntries .lines level rest))
  | [] => by
    rw [indentedEntries, furtherEntries, indented_eq level value, List.append_nil,
      List.append_assoc]
  | (next, content) :: rest => by
    rw [indentedEntries, furtherEntries, indented_eq level value,
      indentedEntries_eq level next content rest, List.append_assoc]
    · rfl
    · exact nofun
termination_by rest => sizeOf value + sizeOf rest + 1

end

/-! ### How values start -/

/-- What a value starts with. -/
def Opening : Value → Char → Prop
  | .scalar .null, c => c = 'n'
  | .scalar (.bool true), c => c = 't'
  | .scalar (.bool false), c => c = 'f'
  | .scalar (.number _), c => startsNumber c = true
  | .scalar (.text _), c => c = '"'
  | .array _, c => c = '['
  | .mapping _, c => c = '{'

/-- A value does not start with a blank or a closing bracket. -/
theorem Opening.visible {value : Value} {c : Char} (opening : Opening value c) :
    isJsonBlank c = false ∧ c ≠ ']' := by
  unfold Opening at opening
  split at opening
  case h_4 =>
    constructor
    · by_contra blank
      simp only [isJsonBlank, Bool.not_eq_false, Bool.or_eq_true, decide_eq_true_eq] at blank
      rcases blank with ((rfl | rfl) | rfl) | rfl <;> exact absurd opening (by decide)
    · rintro rfl
      exact absurd opening (by decide)
  all_goals
    subst opening
    exact ⟨rfl, by decide⟩

/-- Only null starts with its first letter. -/
theorem Opening.eq_null {value : Value} (opening : Opening value 'n') : value = .null := by
  unfold Opening at opening
  split at opening
  · rfl
  all_goals exact absurd opening (by decide)

/-- A numeral may start with any digit. -/
theorem startsNumber_of_isDigit {c : Char} (isDigit : c.isDigit = true) :
    startsNumber c = true := by
  rw [startsNumber, isDigit, Bool.or_true]

/-- The digits of a whole number start with a digit. -/
theorem exists_repr_cons (n : Nat) :
    ∃ c cs, (Nat.repr n).toList = c :: cs ∧ c.isDigit = true := by
  obtain ⟨c, cs, shown⟩ := List.exists_cons_of_ne_nil (Nat.toDigits_ne_nil (n := n) (b := 10))
  have inside : c ∈ Nat.toDigits 10 n := shown ▸ List.mem_cons_self
  have isDigit := Nat.isDigit_of_mem_toDigits (by decide) (by decide) inside
  exact ⟨c, cs, Nat.toList_repr.trans shown, isDigit⟩

/-- A decimal starts with a digit in either form. -/
theorem exists_write_cons (format : DecimalFormat) (decimal : Decimal) :
    ∃ c cs, format.write decimal = c :: cs ∧ c.isDigit = true := by
  obtain ⟨c, cs, shown, isDigit⟩ := exists_repr_cons decimal.digits
  unfold DecimalFormat.write
  simp only [shown]
  split
  · unfold DecimalFormat.positional
    split
    · exact ⟨_, _, rfl, rfl⟩
    · exact ⟨c, _, rfl, isDigit⟩
  · unfold DecimalFormat.scientific
    split
    · rename_i absurd
      cases absurd
    · rename_i same
      cases same
      exact ⟨_, _, rfl, isDigit⟩
    · rename_i same
      cases same
      exact ⟨_, _, rfl, isDigit⟩

/-- The text of a number is not empty and starts as a numeral does, with a digit or a sign. -/
theorem exists_text_cons (number : Number) :
    ∃ c cs, number.text = c :: cs ∧ startsNumber c = true := by
  have signed (negative : Prop) [Decidable negative] {cs : List Char}
      (digits : ∃ c rest, cs = c :: rest ∧ c.isDigit = true) :
      ∃ c rest, (if negative then '-' :: cs else cs) = c :: rest ∧ startsNumber c = true := by
    split
    · exact ⟨_, _, rfl, rfl⟩
    · obtain ⟨c, rest, shown, isDigit⟩ := digits
      exact ⟨c, rest, shown, startsNumber_of_isDigit isDigit⟩
  cases number with
  | integer n => exact signed _ (exists_repr_cons n.natAbs)
  | double x => exact signed _ (exists_write_cons _ _)

/-- The text of a value starts as the value's kind does. -/
theorem exists_spaced_cons (s : Spacing) (level : Nat) (value : Value) :
    ∃ c cs, spaced s level value = c :: cs ∧ Opening value c := by
  cases value with
  | scalar scalar =>
    cases scalar with
    | null => exact ⟨_, _, rfl, rfl⟩
    | bool b => cases b <;> exact ⟨_, _, rfl, rfl⟩
    | number number => exact exists_text_cons number
    | text content => exact ⟨_, _, rfl, rfl⟩
  | array items => cases items <;> exact ⟨_, _, rfl, rfl⟩
  | mapping entries => cases entries <;> exact ⟨_, _, rfl, rfl⟩

/-- The blanks in front of a value are skipped up to its start. -/
theorem skipBlanks_spaced {gap : List Char} (blank : Blank gap) (s : Spacing) (level : Nat)
    (value : Value) (rest : List Char) :
    skipBlanks (gap ++ (spaced s level value ++ rest)) = spaced s level value ++ rest := by
  obtain ⟨c, cs, shown, opening⟩ := exists_spaced_cons s level value
  rw [shown, List.cons_append, skipBlanks_gap blank opening.visible.1]

end Json

end DomainSql
