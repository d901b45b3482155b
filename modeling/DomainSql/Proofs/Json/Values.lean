import DomainSql.Proofs.Json.Spacing
import DomainSql.Request.Document

/-!
# Reading what is written: values

A value whose numbers are integers of 64 bits, and whose mappings hold every key once, is
read back from each of its texts, as long as its brackets do not nest deeper than the
reader goes. A reader of one kind of value recovers from the text of such a value what the
value stands for; how readers are put together carries over to what they recover.
-/
namespace DomainSql

mutual

/-- The number of brackets that are open at the same time in the text of a value. -/
def Value.nesting : Value → Nat
  | .scalar _ => 0
  | .array items => nestingOfItems items + 1
  | .mapping entries => nestingOfEntries entries + 1

/-- The nesting of the deepest item. -/
def nestingOfItems : List Value → Nat
  | [] => 0
  | item :: rest => max item.nesting (nestingOfItems rest)

/-- The nesting of the deepest entry. -/
def nestingOfEntries : List (String × Value) → Nat
  | [] => 0
  | (_, value) :: rest => max value.nesting (nestingOfEntries rest)

end

/-- Items nest no deeper than a bound when each of them does. -/
theorem nestingOfItems_le {items : List Value} {levels : Nat} :
    nestingOfItems items ≤ levels ↔ ∀ item ∈ items, item.nesting ≤ levels := by
  induction items with
  | nil => simp [nestingOfItems]
  | cons item rest ih => rw [nestingOfItems, Nat.max_le, ih, List.forall_mem_cons]

/-- Entries nest no deeper than a bound when each of their values does. -/
theorem nestingOfEntries_le {entries : List (String × Value)} {levels : Nat} :
    nestingOfEntries entries ≤ levels ↔ ∀ entry ∈ entries, entry.2.nesting ≤ levels := by
  induction entries with
  | nil => simp [nestingOfEntries]
  | cons entry rest ih => rw [nestingOfEntries, Nat.max_le, ih, List.forall_mem_cons]

/-- A reader of an array spends one level on its bracket. -/
theorem Value.nesting_array_le {items : List Value} {levels : Nat}
    (shallow : (Value.array items).nesting ≤ levels) :
    ∃ inner, levels = inner + 1 ∧ ∀ item ∈ items, item.nesting ≤ inner := by
  rw [Value.nesting] at shallow
  exact ⟨levels - 1, by omega, nestingOfItems_le.mp (by omega)⟩

/-- A reader of a mapping spends one level on its bracket. -/
theorem Value.nesting_mapping_le {entries : Mapping} {levels : Nat}
    (shallow : (Value.mapping entries).nesting ≤ levels) :
    ∃ inner, levels = inner + 1 ∧ ∀ entry ∈ entries, entry.2.nesting ≤ inner := by
  rw [Value.nesting] at shallow
  exact ⟨levels - 1, by omega, nestingOfEntries_le.mp (by omega)⟩

/-- A scalar whose number, if it is one, is an integer of 64 bits. -/
def Scalar.Exact : Scalar → Prop
  | .number (.integer n) => Json.Fits64 n
  | .number (.double _) => False
  | _ => True

/-- All numbers in a value are integers of 64 bits, and every mapping in it holds every key
once. -/
inductive Value.Exact : Value → Prop
  | scalar {scalar : Scalar} (exact : scalar.Exact) : Exact (.scalar scalar)
  | array {items : List Value} (each : ∀ item ∈ items, Exact item) : Exact (.array items)
  | mapping {entries : Mapping} (unique : entries.Unique)
      (each : ∀ entry ∈ entries, Exact entry.2) : Exact (.mapping entries)

namespace Json

variable {α : Type}

/-- From a text, with blanks in front of it and an end of a value behind it, a result is
read, and all of the text. -/
def Reads (read : Scan α) (text : List Char) (a : α) : Prop :=
  ∀ gap rest, Blank gap → Ends rest → read (gap ++ (text ++ rest)) = .ok (a, rest)

/-- Every text of a value is read as something, on as many levels as it nests. -/
def Recovers (read : Reader α) (value : Value) (a : α) : Prop :=
  ∀ (s : Spacing) (level levels : Nat), value.nesting ≤ levels →
    Reads (read levels) (spaced s level value) a

/-- A part of a document is read from the start of its value. -/
theorem reads_readPart {read : Scan α} {s : Spacing} {level : Nat} {value : Value} {a : α}
    (reads : ∀ rest, Ends rest → read (spaced s level value ++ rest) = .ok (a, rest)) :
    Reads (readPart read) (spaced s level value) a := by
  intro gap rest blank ends
  obtain ⟨c, cs, shown, _⟩ := exists_spaced_cons s level value
  rw [readPart, skipBlanks_spaced blank]
  split
  · rename_i empty
    rw [shown] at empty
    cases empty
  · exact reads rest ends

/-- A word is read from itself. -/
theorem readWord_append (word rest : List Char) : readWord word (word ++ rest) = .ok rest := by
  induction word with
  | nil => cases rest <;> rfl
  | cons c word ih => rw [List.cons_append, readWord, if_pos rfl, ih]

/-! ### Items and entries -/

/-- What stands behind an item ends it: a comma or, behind the last one, the bracket. -/
theorem ends_furtherItems (s : Spacing) (level : Nat) (items : List Value) {gap : List Char}
    (blank : Blank gap) (rest : List Char) :
    Ends (furtherItems s level items ++ (gap ++ ']' :: rest)) := by
  cases items with
  | nil =>
    rw [furtherItems, List.nil_append]
    exact (ends_bracket rest).gap blank
  | cons item items => exact ends_comma _

/-- Every further item takes a character at least, the comma in front of it. -/
theorem length_le_furtherItems (s : Spacing) (level : Nat) (items : List Value) :
    items.length ≤ (furtherItems s level items).length := by
  induction items with
  | nil => exact Nat.zero_le _
  | cons item items ih =>
    simp only [furtherItems, List.length_cons, List.length_append]
    omega

/-- An item stands behind each comma. -/
theorem readMoreItems_comma (item : Scan α) (steps : Nat) {gap : List Char} (blank : Blank gap)
    {c : Char} (visible : isJsonBlank c = false ∧ c ≠ ']') (cs : List Char) :
    readMoreItems item (steps + 1) (',' :: (gap ++ c :: cs)) = (do
      let (first, rest) ← item (c :: cs)
      let (items, rest) ← readMoreItems item steps rest
      .ok (first :: items, rest)) := by
  rw [readMoreItems, skipBlanks_cons rfl]
  simp only [skipBlanks_gap blank visible.1]
  split
  · rename_i absurd
    cases absurd
  · rename_i same
    exact absurd (List.cons.inj same).1 visible.2
  · rfl

section
variable {item : Scan α} {write : α → Value} {s : Spacing} {level : Nat} {items : List α}

/-- The items behind the first one are read up to the closing bracket. -/
theorem readMoreItems_furtherItems
    (each : ∀ a ∈ items, Reads item (spaced s level (write a)) a) {steps : Nat}
    (enough : items.length < steps) {gap : List Char} (blank : Blank gap) (rest : List Char) :
    readMoreItems item steps (furtherItems s level (items.map write) ++ (gap ++ ']' :: rest)) =
      .ok (items, rest) := by
  induction items generalizing steps with
  | nil =>
    obtain ⟨steps, rfl⟩ := Nat.exists_eq_succ_of_ne_zero (Nat.ne_zero_of_lt enough)
    have skipped : skipBlanks (gap ++ ']' :: rest) = ']' :: rest := skipBlanks_gap blank rfl rest
    simp only [List.map_nil, furtherItems, List.nil_append, readMoreItems, skipped]
  | cons a items ih =>
    obtain ⟨steps, rfl⟩ := Nat.exists_eq_succ_of_ne_zero (Nat.ne_zero_of_lt enough)
    obtain ⟨first, others⟩ := List.forall_mem_cons.mp each
    obtain ⟨c, cs, shown, opening⟩ := exists_spaced_cons s level (write a)
    have read := first [] _ blank_nil
      (ends_furtherItems s level (items.map write) blank rest)
    have remaining := ih others (by simpa using enough)
    rw [List.nil_append, shown, List.cons_append] at read
    simp only [List.map_cons, furtherItems, List.cons_append, List.append_assoc, shown]
    rw [readMoreItems_comma item steps (s.line_blank level) opening.visible, read, ok_bind]
    simp only [remaining, ok_bind]

variable (s level) in
/-- The items of an array are read up to the closing bracket. -/
theorem readItems_written (each : ∀ a ∈ items, Reads item (spaced s (level + 1) (write a)) a)
    (rest : List Char) :
    ∃ cs, spaced s level (.array (items.map write)) = '[' :: cs ∧
      readItems item (cs ++ rest) = .ok (items, rest) := by
  cases items with
  | nil => exact ⟨_, rfl, rfl⟩
  | cons a items =>
    refine ⟨_, rfl, ?_⟩
    obtain ⟨first, others⟩ := List.forall_mem_cons.mp each
    obtain ⟨c, cs, shown, opening⟩ := exists_spaced_cons s (level + 1) (write a)
    have read := first [] _ blank_nil
      (ends_furtherItems s (level + 1) (items.map write) (s.line_blank level) rest)
    rw [List.nil_append, shown, List.cons_append] at read
    have enough : items.length < (furtherItems s (level + 1) (items.map write) ++
        (s.line level ++ ']' :: rest)).length + 1 := by
      have := length_le_furtherItems s (level + 1) (items.map write)
      rw [List.length_map] at this
      rw [List.length_append]
      omega
    have remaining := readMoreItems_furtherItems others enough (s.line_blank level) rest
    simp only [shown, List.append_assoc, List.cons_append, List.nil_append]
    rw [readItems, skipBlanks_gap (s.line_blank _) opening.visible.1]
    split
    · rename_i absurd
      cases absurd
    · rename_i same
      exact absurd (List.cons.inj same).1 opening.visible.2
    · rw [read, ok_bind]
      simp only [remaining, ok_bind]

end

/-! ### Entries -/

/-- A quoted key starts with the quotation mark that a reader of entries looks for. -/
theorem quote_append (key : String) (rest : List Char) :
    quote key ++ rest = '"' :: (key.toList.flatMap escape ++ '"' :: rest) := by
  rw [quote, List.cons_append, List.append_assoc, List.singleton_append]

/-- What stands behind an entry ends it: a comma or, behind the last one, the brace. -/
theorem ends_furtherEntries (s : Spacing) (level : Nat) (entries : Mapping) {gap : List Char}
    (blank : Blank gap) (rest : List Char) :
    Ends (furtherEntries s level entries ++ (gap ++ '}' :: rest)) := by
  cases entries with
  | nil =>
    rw [furtherEntries, List.nil_append]
    exact (ends_brace rest).gap blank
  | cons entry entries => exact ends_comma _

/-- Every further entry takes a character at least, the comma in front of it. -/
theorem length_le_furtherEntries (s : Spacing) (level : Nat) (entries : Mapping) :
    entries.length ≤ (furtherEntries s level entries).length := by
  induction entries with
  | nil => exact Nat.zero_le _
  | cons entry entries ih =>
    simp only [furtherEntries, List.length_cons, List.length_append]
    omega

/-- A colon is read without blanks in front of it. -/
theorem readColon_cons (rest : List Char) : readColon (':' :: rest) = .ok rest := by
  have skipped : skipBlanks (':' :: rest) = ':' :: rest := skipBlanks_cons rfl rest
  simp only [readColon, skipped]

section
variable {read : Scan Value} {s : Spacing} {level : Nat} {entries : Mapping}

/-- An entry is read from its key on, behind the first quotation mark. -/
theorem readEntry_written (key : String) {value : Value}
    (reads : Reads read (spaced s level value) value) {rest : List Char} (ends : Ends rest) :
    readEntry read (key.toList.flatMap escape ++ '"' :: ':' ::
      (s.colon ++ (spaced s level value ++ rest))) = .ok ((key, value), rest) := by
  have content := reads s.colon rest s.colon_blank ends
  simp only [readEntry, readQuotation_written, readColon_cons, content, ok_bind]

/-- An entry stands behind each comma. -/
theorem readMoreEntries_comma (steps : Nat) {gap : List Char} (blank : Blank gap)
    (cs : List Char) :
    readMoreEntries read (steps + 1) (',' :: (gap ++ '"' :: cs)) = (do
      let (first, rest) ← readEntry read cs
      let (entries, rest) ← readMoreEntries read steps rest
      .ok (first :: entries, rest)) := by
  have skipped : skipBlanks (gap ++ '"' :: cs) = '"' :: cs := skipBlanks_gap blank rfl cs
  rw [readMoreEntries, skipBlanks_cons rfl]
  simp only [skipped]

/-- The entries behind the first one are read up to the closing brace. -/
theorem readMoreEntries_furtherEntries
    (each : ∀ entry ∈ entries, Reads read (spaced s level entry.2) entry.2) {steps : Nat}
    (enough : entries.length < steps) {gap : List Char} (blank : Blank gap) (rest : List Char) :
    readMoreEntries read steps (furtherEntries s level entries ++ (gap ++ '}' :: rest)) =
      .ok (entries, rest) := by
  induction entries generalizing steps with
  | nil =>
    obtain ⟨steps, rfl⟩ := Nat.exists_eq_succ_of_ne_zero (Nat.ne_zero_of_lt enough)
    have skipped : skipBlanks (gap ++ '}' :: rest) = '}' :: rest := skipBlanks_gap blank rfl rest
    simp only [furtherEntries, List.nil_append, readMoreEntries, skipped]
  | cons entry entries ih =>
    obtain ⟨steps, rfl⟩ := Nat.exists_eq_succ_of_ne_zero (Nat.ne_zero_of_lt enough)
    obtain ⟨first, others⟩ := List.forall_mem_cons.mp each
    have ends := ends_furtherEntries s level entries blank rest
    have remaining := ih others (by simpa using enough)
    simp only [furtherEntries, List.cons_append, List.append_assoc, quote_append]
    rw [readMoreEntries_comma steps (s.line_blank level), readEntry_written entry.1 first ends,
      ok_bind]
    simp only [remaining, ok_bind]

variable (s level) in
/-- The entries of a mapping are read up to the closing brace. -/
theorem readEntries_written
    (each : ∀ entry ∈ entries, Reads read (spaced s (level + 1) entry.2) entry.2)
    (rest : List Char) :
    ∃ cs, spaced s level (.mapping entries) = '{' :: cs ∧
      readEntries read (cs ++ rest) = .ok (entries, rest) := by
  cases entries with
  | nil => exact ⟨_, rfl, rfl⟩
  | cons entry entries =>
    refine ⟨_, rfl, ?_⟩
    obtain ⟨first, others⟩ := List.forall_mem_cons.mp each
    have ends := ends_furtherEntries s (level + 1) entries (s.line_blank level) rest
    have enough : entries.length <
        (furtherEntries s (level + 1) entries ++ (s.line level ++ '}' :: rest)).length + 1 := by
      have := length_le_furtherEntries s (level + 1) entries
      rw [List.length_append]
      omega
    have remaining := readMoreEntries_furtherEntries others enough (s.line_blank level) rest
    have skipped (cs : List Char) : skipBlanks (s.line (level + 1) ++ '"' :: cs) = '"' :: cs :=
      skipBlanks_gap (s.line_blank _) rfl cs
    simp only [List.append_assoc, List.cons_append, List.nil_append, quote_append]
    rw [readEntries, skipped]
    simp only [readEntry_written entry.1 first ends, ok_bind, remaining]

end

/-- Entries with single keys stay as they are when they are put together. -/
theorem mappingOf_of_unique {entries : Mapping} (unique : entries.Unique) :
    mappingOf entries = entries := by
  have behind (front : Mapping) (single : Mapping.Unique (front ++ entries)) :
      entries.foldl (fun mapping entry => Entries.set entry.1 entry.2 mapping) front =
        front ++ entries := by
    induction entries generalizing front with
    | nil => rw [List.foldl_nil, List.append_nil]
    | cons entry rest ih =>
      have absent : entry.1 ∉ Mapping.keys front := by
        have apart := single
        rw [Mapping.Unique, Mapping.keys, List.map_append, List.nodup_append] at apart
        exact fun inside => apart.2.2 entry.1 inside entry.1 (by simp) rfl
      have same : front ++ entry :: rest = (front ++ [entry]) ++ rest := by simp
      rw [same] at single ⊢
      rw [List.foldl_cons, Entries.set_of_absent absent]
      exact ih (List.nodup_cons.mp unique).2 (front ++ [entry]) single
  exact behind [] unique

/-! ### Readers -/

/-- A text is read back from its quotation. -/
theorem recovers_readText (text : String) : Recovers readText (.text text) text := by
  intro s level levels _
  refine reads_readPart fun rest _ => ?_
  simp only [spaced, writeScalar, quote_append, readQuotation_written]

/-- A truth value is read back from its word. -/
theorem recovers_readBool (b : Bool) : Recovers readBool (.bool b) b := by
  intro s level levels _
  refine reads_readPart fun rest _ => ?_
  cases b with
  | false => exact bind_eq_ok.mpr ⟨rest, readWord_append falseTail rest, rfl⟩
  | true => exact bind_eq_ok.mpr ⟨rest, readWord_append trueTail rest, rfl⟩

/-- A whole number of 32 bits is read back from its digits, for it fits 64 bits as well. -/
theorem recovers_readWord32 (n : UInt32) : Recovers readWord32 (word32 n) n := by
  intro s level levels _
  refine reads_readPart fun rest ends => ?_
  have small : n.toNat < 2 ^ 32 := n.toNat_lt
  have fits : Fits64 (n.toNat : Int) := ⟨by omega, by omega⟩
  have within : (0 : Int) ≤ n.toNat ∧ (n.toNat : Int) < UInt32.size := by
    rw [show UInt32.size = 2 ^ 32 from rfl]
    omega
  have number := readNumber_integerText fits ends
  obtain ⟨c, cs, shown, starts⟩ := exists_text_cons (.integer n.toNat)
  have text : spaced s level (word32 n) = c :: cs := shown
  rw [show Number.integerText n.toNat = c :: cs from shown, List.cons_append] at number
  rw [text, List.cons_append]
  dsimp only
  rw [if_pos starts]
  refine bind_eq_ok.mpr ⟨_, number, ?_⟩
  dsimp only
  rw [if_pos within, Int.toNat_natCast, UInt32.ofNat_toNat]

/-- A scalar is read as a value. -/
theorem recovers_readValue_scalar {scalar : Scalar} (exact : scalar.Exact) :
    Recovers readValue (.scalar scalar) (.scalar scalar) := by
  intro s level levels _
  rw [readValue.eq_def]
  refine reads_readPart fun rest ends => ?_
  cases scalar with
  | null => exact bind_eq_ok.mpr ⟨rest, readWord_append nullTail rest, rfl⟩
  | bool b =>
    cases b with
    | false => exact bind_eq_ok.mpr ⟨rest, readWord_append falseTail rest, rfl⟩
    | true => exact bind_eq_ok.mpr ⟨rest, readWord_append trueTail rest, rfl⟩
  | text text => simp only [spaced, writeScalar, quote_append, readQuotation_written, ok_bind]
  | number number =>
    cases number with
    | double x => exact exact.elim
    | integer n =>
      have number := readNumber_integerText exact ends
      obtain ⟨c, cs, shown, starts⟩ := exists_text_cons (.integer n)
      have text : spaced s level (.scalar (.number (.integer n))) = c :: cs := shown
      rw [show Number.integerText n = c :: cs from shown, List.cons_append] at number
      rw [text, List.cons_append]
      split
      case h_8 =>
        rename_i same
        cases same
        simp only [starts, if_true, number, ok_bind]
      all_goals
        rename_i same
        cases same
        try exact absurd starts (by decide)

/-- A value is read back as itself. The induction goes along the value, and each bracket takes one
level from the reader. -/
theorem recovers_readValue {value : Value} (exact : value.Exact) :
    Recovers readValue value value := by
  induction value with
  | scalar scalar =>
    cases exact with
    | scalar exact => exact recovers_readValue_scalar exact
  | array items ih =>
    cases exact with
    | array each =>
      intro s level levels shallow
      obtain ⟨inner, rfl, within⟩ := Value.nesting_array_le shallow
      have reads (item : Value) (inside : item ∈ items) :
          Reads (readValue inner) (spaced s (level + 1) (id item)) item :=
        ih item inside (each item inside) s (level + 1) inner (within item inside)
      rw [readValue.eq_def]
      refine reads_readPart fun rest _ => ?_
      obtain ⟨cs, shown, read⟩ := readItems_written s level reads rest
      rw [List.map_id] at shown
      simp only [shown, List.cons_append, read, ok_bind]
  | mapping entries ih =>
    cases exact with
    | mapping unique each =>
      intro s level levels shallow
      obtain ⟨inner, rfl, within⟩ := Value.nesting_mapping_le shallow
      have reads (entry : String × Value) (inside : entry ∈ entries) :
          Reads (readValue inner) (spaced s (level + 1) entry.2) entry.2 :=
        ih entry inside (each entry inside) s (level + 1) inner (within entry inside)
      rw [readValue.eq_def]
      refine reads_readPart fun rest _ => ?_
      obtain ⟨cs, shown, read⟩ := readEntries_written s level reads rest
      simp only [shown, List.cons_append, read, ok_bind, mappingOf_of_unique unique]

/-- A scalar is read back where nothing but a scalar may stand. -/
theorem recovers_readScalar {scalar : Scalar} (exact : scalar.Exact) :
    Recovers readScalar (.scalar scalar) scalar := by
  intro s level levels shallow gap rest blank ends
  have value := recovers_readValue_scalar exact s level levels shallow gap rest blank ends
  exact bind_eq_ok.mpr ⟨_, value, rfl⟩

/-- A mapping is read back where nothing but a mapping may stand. -/
theorem recovers_readMapping {entries : Mapping} (exact : (Value.mapping entries).Exact) :
    Recovers readMapping (.mapping entries) entries := by
  intro s level levels shallow
  obtain ⟨unique, each⟩ : entries.Unique ∧ ∀ entry ∈ entries, entry.2.Exact := by
    cases exact with
    | mapping unique each => exact ⟨unique, each⟩
  obtain ⟨inner, rfl, within⟩ := Value.nesting_mapping_le shallow
  have reads (entry : String × Value) (inside : entry ∈ entries) :
      Reads (readValue inner) (spaced s (level + 1) entry.2) entry.2 :=
    recovers_readValue (each entry inside) s (level + 1) inner (within entry inside)
  refine reads_readPart fun rest _ => ?_
  obtain ⟨cs, shown, read⟩ := readEntries_written s level reads rest
  simp only [shown, List.cons_append, read, ok_bind, mappingOf_of_unique unique]

/-- A list is recovered when its items are. -/
theorem recovers_readList {item : Reader α} {write : α → Value} {items : List α}
    (each : ∀ a ∈ items, Recovers item (write a) a) :
    Recovers (readList item) (.array (items.map write)) items := by
  intro s level levels shallow
  obtain ⟨inner, rfl, within⟩ := Value.nesting_array_le shallow
  have reads (a : α) (inside : a ∈ items) : Reads (item inner) (spaced s (level + 1) (write a)) a :=
    each a inside s (level + 1) inner (within _ (List.mem_map_of_mem inside))
  refine reads_readPart fun rest _ => ?_
  obtain ⟨cs, shown, read⟩ := readItems_written s level reads rest
  simp only [shown, List.cons_append, read]

/-- Null stands for an absent value. -/
theorem recovers_readOptional_null (read : Reader α) :
    Recovers (readOptional read) .null none := by
  intro s level levels _ gap rest blank _
  have skipped : skipBlanks (gap ++ (spaced s level .null ++ rest)) =
      'n' :: (nullTail ++ rest) := skipBlanks_spaced blank s level .null rest
  simp only [readOptional, skipped, readWord_append, ok_bind]

/-- A value other than null is there. -/
theorem Recovers.optional {read : Reader α} {value : Value} {a : α}
    (recovers : Recovers read value a) (present : value ≠ .null) :
    Recovers (readOptional read) value (some a) := by
  intro s level levels shallow gap rest blank ends
  have content := recovers s level levels shallow [] rest blank_nil ends
  rw [List.nil_append] at content
  rw [readOptional, skipBlanks_spaced blank]
  obtain ⟨c, cs, shown, opening⟩ := exists_spaced_cons s level value
  split
  · rename_i same
    rw [shown] at same
    cases same
    exact absurd opening.eq_null present
  · rw [content, ok_bind]

/-- A document is read back, also with blanks behind it. -/
theorem Recovers.parse {read : Reader α} {value : Value} {a : α}
    (recovers : Recovers read value a) (shallow : value.nesting ≤ maximalNesting)
    (s : Spacing) {gap : List Char} (blank : Blank gap) :
    parse read (String.ofList (spaced s 0 value ++ gap)) = .ok a := by
  have content := recovers s 0 maximalNesting shallow [] gap blank_nil
    (by simpa using ends_nil.gap blank)
  have nothing : skipBlanks gap = [] := by
    rw [skipBlanks, ← List.append_nil gap, List.dropWhile_append_of_pos blank, List.dropWhile_nil]
  rw [List.nil_append] at content
  simp only [Json.parse, readAll, String.toList_ofList, content, ok_bind, nothing]

/-- The compact text of a value is read back. -/
theorem Recovers.parse_text {read : Reader α} {value : Value} {a : α}
    (recovers : Recovers read value a) (shallow : value.nesting ≤ maximalNesting) :
    Json.parse read (Json.text value) = .ok a := by
  have whole := recovers.parse shallow .none blank_nil
  rwa [List.append_nil, ← compact_eq] at whole

end Json

end DomainSql
