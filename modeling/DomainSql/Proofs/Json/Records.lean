import DomainSql.Proofs.Json.Values

/-!
# Reading what is written: records

A record is written as an object whose keys name some of its fields. Each entry changes the
draft that is filled in as its field says, and the entries are read in the order in which
they are written. Which fields may be left out shows in the draft alone: it holds what is
not read.
-/
namespace DomainSql.Json

variable {σ α : Type}

/-- Entries that change a draft one after the other, each by what its field reads. -/
inductive Fills (record : Record σ) : σ → Mapping → σ → Prop
  | nil (draft : σ) : Fills record draft [] draft
  | cons {draft result : σ} {key : String} {value : Value} {field : Field σ} {put : σ → σ}
      {entries : Mapping} (found : record.fields.find? (·.name = key) = some field)
      (recovers : Recovers field.read value put) (rest : Fills record (put draft) entries result) :
      Fills record draft ((key, value) :: entries) result

/-- Entries may be filled in in two runs. -/
theorem Fills.append {record : Record σ} {draft middle result : σ} {first second : Mapping}
    (before : Fills record draft first middle) (behind : Fills record middle second result) :
    Fills record draft (first ++ second) result := by
  induction before with
  | nil => exact behind
  | cons found recovers _ ih => exact Fills.cons found recovers (ih behind)

/-- A field, required or not, puts into the draft what its reader recovers. -/
theorem Recovers.put {field : Field σ} {key : String} {read : Reader α} {put : α → σ → σ}
    {value : Value} {a : α} (recovers : Recovers read value a)
    (kind : field = .optional key read put ∨ field = .needed key read put) :
    Recovers field.read value (put a) := by
  intro s level levels shallow gap rest blank ends
  have content := recovers s level levels shallow gap rest blank ends
  rcases kind with rfl | rfl
  · exact bind_eq_ok.mpr ⟨_, content, rfl⟩
  · exact bind_eq_ok.mpr ⟨_, content, rfl⟩

/-- The names of the fields that have to be there. -/
def Record.needs (record : Record σ) : List String :=
  (record.fields.filter (·.required)).map (·.name)

/-- A field that is always written is filled in by its entry, required or not. -/
theorem Fills.field {record : Record σ} {key : String} {field : Field σ} {read : Reader α}
    {put : α → σ → σ} {value : Value} {a : α} {draft result : σ}
    (found : record.fields.find? (·.name = key) = some field)
    (kind : field = .optional key read put ∨ field = .needed key read put)
    (filled : put a draft = result) (recovers : Recovers read value a) :
    Fills record draft [(key, value)] result := by
  subst filled
  exact Fills.cons found (recovers.put kind) (Fills.nil _)

/-- A field that may be absent is filled in by its entry, if there is one. -/
theorem Fills.entryOf? {record : Record σ} {key : String} {read : Reader α}
    {put : Option α → σ → σ} {write : α → Value} {value : Option α} {draft result : σ}
    (found : record.fields.find? (·.name = key) = some (.optional key (readOptional read) put))
    (untouched : put none draft = draft) (filled : put value draft = result)
    (present : ∀ a, write a ≠ .null) (recovers : ∀ a ∈ value, Recovers read (write a) a) :
    Fills record draft (entryOf? key write value) result := by
  subst filled
  cases value with
  | none =>
    rw [untouched]
    exact Fills.nil draft
  | some a =>
    have there := (recovers a rfl).optional (present a)
    exact Fills.cons found (there.put (Or.inl rfl)) (Fills.nil _)

/-- An entry that may be absent has no other key than its own. -/
theorem keys_entryOf? (key : String) (write : α → Value) (value : Option α) :
    (Mapping.keys (entryOf? key write value)).Sublist [key] := by
  cases value with
  | none => exact List.nil_sublist [key]
  | some a => exact List.Sublist.refl [key]

/-- The keys of entries in two runs come from the names of both, in order. -/
theorem keys_append_sublist {first second : Mapping} {before behind : List String}
    (ofFirst : first.keys.Sublist before) (ofSecond : second.keys.Sublist behind) :
    (Mapping.keys (first ++ second)).Sublist (before ++ behind) := by
  rw [Mapping.keys, List.map_append]
  exact ofFirst.append ofSecond

/-! ### Entries of a record -/

section
variable {record : Record σ} {s : Spacing} {level levels : Nat}

/-- An entry is read by the field that its key names. -/
theorem readMember_written {key : String} {value : Value} {field : Field σ} {put : σ → σ}
    (found : record.fields.find? (·.name = key) = some field)
    (recovers : Recovers field.read value put) (shallow : value.nesting ≤ levels)
    {seen : List String} (unseen : key ∉ seen) (draft : σ) {rest : List Char}
    (ends : Ends rest) :
    readMember record levels seen draft (key.toList.flatMap escape ++ '"' :: ':' ::
      (s.colon ++ (spaced s level value ++ rest))) = .ok ((key :: seen, put draft), rest) := by
  have content := recovers s level levels shallow s.colon rest s.colon_blank ends
  have fresh : seen.contains key = false := by simpa using unseen
  simp only [readMember, readQuotation_written, ok_bind, found, fresh, Bool.false_eq_true,
    if_false, readColon_cons, content]

/-- Every further entry stands behind a comma. -/
theorem readByName_comma (steps : Nat) (seen : List String) (draft : σ) {gap : List Char}
    (blank : Blank gap) (cs : List Char) :
    readByName record levels (steps + 1) false seen draft (',' :: (gap ++ '"' :: cs)) = (do
      let ((seen, draft), rest) ← readMember record levels seen draft cs
      readByName record levels steps false seen draft rest) := by
  have skipped : skipBlanks (gap ++ '"' :: cs) = '"' :: cs := skipBlanks_gap blank rfl cs
  have comma (cs : List Char) : skipBlanks (',' :: cs) = ',' :: cs := skipBlanks_cons rfl cs
  rw [readByName, comma]
  simp only [Bool.false_eq_true, if_false]
  split
  · rename_i same
    cases same
  · rename_i same
    cases same
  · rename_i same
    obtain ⟨rfl, rfl⟩ := List.cons.inj same
    rw [if_pos rfl, skipped]
    rfl

/-- Behind the opening brace the first entry is read as a further one is behind its comma. -/
theorem readByName_first (steps : Nat) (seen : List String) (draft : σ) {gap : List Char}
    (blank : Blank gap) (cs : List Char) :
    readByName record levels (steps + 1) true seen draft (gap ++ '"' :: cs) =
      readByName record levels (steps + 1) false seen draft (',' :: (gap ++ '"' :: cs)) := by
  have skipped : skipBlanks (gap ++ '"' :: cs) = '"' :: cs := skipBlanks_gap blank rfl cs
  rw [readByName_comma steps seen draft blank, readByName, skipped]
  rfl

/-- The object ends where every required field has been seen. -/
theorem endObject_complete {seen : List String} (draft : σ) (rest : List Char)
    (complete : record.needs ⊆ seen) : endObject record seen draft rest = .ok (draft, rest) := by
  have none : record.fields.find? (fun field => field.required && !seen.contains field.name) =
      none := by
    rw [List.find?_eq_none]
    intro field inside
    by_cases required : field.required = true
    · have needed : field.name ∈ record.needs :=
        List.mem_map_of_mem (List.mem_filter.mpr ⟨inside, required⟩)
      simp [complete needed]
    · simp [required]
  rw [endObject, none]

variable (s level) in
/-- The entries behind the first one are read up to the closing brace. -/
theorem readByName_furtherEntries {draft result : σ} {entries : Mapping}
    (fills : Fills record draft entries result) (unique : entries.Unique)
    (shallow : ∀ entry ∈ entries, entry.2.nesting ≤ levels) {seen : List String}
    (unseen : ∀ key ∈ entries.keys, key ∉ seen)
    (complete : record.needs ⊆ seen ++ entries.keys)
    {steps : Nat} (enough : entries.length < steps) {gap : List Char} (blank : Blank gap)
    (rest : List Char) :
    readByName record levels steps false seen draft
      (furtherEntries s level entries ++ (gap ++ '}' :: rest)) = .ok (result, rest) := by
  induction fills generalizing seen steps with
  | nil draft =>
    obtain ⟨steps, rfl⟩ := Nat.exists_eq_succ_of_ne_zero (Nat.ne_zero_of_lt enough)
    have skipped : skipBlanks (gap ++ '}' :: rest) = '}' :: rest := skipBlanks_gap blank rfl rest
    rw [furtherEntries, List.nil_append, readByName]
    simp only [skipped]
    rw [Mapping.keys, List.map_nil, List.append_nil] at complete
    exact endObject_complete draft rest complete
  | @cons draft result key value field put entries found recovers _ ih =>
    obtain ⟨steps, rfl⟩ := Nat.exists_eq_succ_of_ne_zero (Nat.ne_zero_of_lt enough)
    obtain ⟨first, others⟩ := List.forall_mem_cons.mp shallow
    obtain ⟨fresh, unseenOthers⟩ := List.forall_mem_cons.mp unseen
    obtain ⟨single, uniqueOthers⟩ := List.nodup_cons.mp unique
    have ends := ends_furtherEntries s level entries blank rest
    simp only [furtherEntries, List.cons_append, List.append_assoc, quote_append]
    rw [readByName_comma steps seen draft (s.line_blank level),
      readMember_written found recovers first fresh draft ends, ok_bind]
    have moved : record.needs ⊆ (key :: seen) ++ Mapping.keys entries := by
      intro name needed
      have among := complete needed
      simp only [Mapping.keys, List.map_cons, List.mem_append, List.mem_cons] at among ⊢
      tauto
    refine ih uniqueOthers others (fun other inside => ?_) moved (by simpa using enough)
    rw [List.mem_cons, not_or]
    exact ⟨fun same => single (same ▸ inside), unseenOthers other inside⟩

end

/-- What stands behind the opening brace of an object stands behind a comma as well. -/
theorem exists_behind_brace (s : Spacing) (level : Nat) (key : String) (value : Value)
    (entries : Mapping) (rest : List Char) :
    ∃ cs, spaced s level (.mapping ((key, value) :: entries)) ++ rest =
        '{' :: (s.line (level + 1) ++ '"' :: cs) ∧
      furtherEntries s (level + 1) ((key, value) :: entries) ++ (s.line level ++ '}' :: rest) =
        ',' :: (s.line (level + 1) ++ '"' :: cs) := by
  refine ⟨key.toList.flatMap escape ++ '"' :: ':' :: (s.colon ++ (spaced s (level + 1) value ++
    (furtherEntries s (level + 1) entries ++ (s.line level ++ '}' :: rest)))), ?_, ?_⟩
  · simp only [spaced, List.cons_append, List.append_assoc, quote_append, List.nil_append]
  · simp only [furtherEntries, List.cons_append, List.append_assoc, quote_append]

/-- A record is recovered from an object whose entries fill its draft, hold every key once
and name every required field. -/
theorem recovers_readRecord {record : Record σ} {entries : Mapping} {result : σ}
    (fills : Fills record record.draft entries result) (unique : entries.Unique)
    (complete : record.needs ⊆ entries.keys) :
    Recovers (readRecord record) (.mapping entries) result := by
  intro s level levels shallow
  obtain ⟨inner, rfl, within⟩ := Value.nesting_mapping_le shallow
  refine reads_readPart fun rest _ => ?_
  cases fills with
  | nil =>
    exact endObject_complete record.draft rest complete
  | @cons _ _ key value field put entries found recovers others =>
    obtain ⟨cs, written, further⟩ := exists_behind_brace s level key value entries rest
    have enough :
        ((key, value) :: entries).length < (s.line (level + 1) ++ '"' :: cs).length + 1 := by
      have := length_le_furtherEntries s (level + 1) ((key, value) :: entries)
      have := congrArg List.length further
      simp only [List.length_append, List.length_cons] at *
      omega
    have read := readByName_furtherEntries s (level + 1) (Fills.cons found recovers others)
      unique within (fun _ _ => List.not_mem_nil) complete enough (s.line_blank level) rest
    rw [further, ← readByName_first _ _ _ (s.line_blank _)] at read
    rw [written]
    exact read

end DomainSql.Json
