import DomainSql.Proofs.Json.Values
import DomainSql.Json.Record

/-!
# What readers give

A reader builds its result from what its parts give, so what holds of every part holds of the
whole. An integer that has been read fits 64 bits, a mapping that has been read holds every
key once, and the brackets of a value nest no deeper than the levels that were left for it.

A value cannot carry these facts along. Its entries hold values again, and a constructor that
takes a list of values has no room for a proof about the keys of that list. So the facts are
hypotheses of the theorems that need them, and here they are proved of everything that has
been read.
-/
namespace DomainSql

/-- An integer fits 64 bits. A double is in range as it is. -/
def Number.Lawful : Number → Prop
  | .integer n => Json.Fits64 n
  | .double _ => True

/-- The number of a scalar, if it is one, is in range. -/
def Scalar.Lawful : Scalar → Prop
  | .number value => value.Lawful
  | _ => True

/-- A value whose brackets nest on so many levels, whose integers fit 64 bits, and whose
mappings hold every key once. -/
inductive Value.Lawful : Nat → Value → Prop
  | scalar {levels : Nat} {scalar : Scalar} (lawful : scalar.Lawful) :
    Lawful levels (.scalar scalar)
  | array {levels : Nat} {items : List Value} (each : ∀ item ∈ items, Lawful levels item) :
    Lawful (levels + 1) (.array items)
  | mapping {levels : Nat} {entries : Mapping} (unique : entries.Unique)
      (each : ∀ entry ∈ entries, Lawful levels entry.2) : Lawful (levels + 1) (.mapping entries)

/-- No number in a value is a double. -/
inductive Value.Doubleless : Value → Prop
  | scalar {scalar : Scalar} (none : ∀ x, scalar ≠ .number (.double x)) :
    Doubleless (.scalar scalar)
  | array {items : List Value} (each : ∀ item ∈ items, Doubleless item) :
    Doubleless (.array items)
  | mapping {entries : Mapping} (each : ∀ entry ∈ entries, Doubleless entry.2) :
    Doubleless (.mapping entries)

/-- The levels bound the nesting. -/
theorem Value.Lawful.nesting_le {levels : Nat} {value : Value} (lawful : value.Lawful levels) :
    value.nesting ≤ levels := by
  induction lawful with
  | scalar => exact Nat.zero_le _
  | array _ ih => exact Nat.succ_le_succ (nestingOfItems_le.mpr ih)
  | mapping _ _ ih => exact Nat.succ_le_succ (nestingOfEntries_le.mpr ih)

/-- A lawful value without a double is one that is read back from its text. -/
theorem Value.Lawful.exact {levels : Nat} {value : Value} (lawful : value.Lawful levels)
    (whole : value.Doubleless) : value.Exact := by
  induction lawful with
  | @scalar _ scalar lawful =>
    refine .scalar ?_
    cases whole with
    | scalar none =>
      cases scalar with
      | null | bool | text => trivial
      | number value =>
        cases value with
        | integer n => exact lawful
        | double x => exact absurd rfl (none x)
  | array _ ih =>
    cases whole with
    | array each => exact .array fun item inside => ih item inside (each item inside)
  | mapping unique _ ih =>
    cases whole with
    | mapping each => exact .mapping unique fun entry inside => ih entry inside (each entry inside)

namespace Json

variable {α σ : Type}

/-- Whatever a scan gives has a property. -/
def Gives (scan : Scan α) (P : α → Prop) : Prop :=
  ∀ cs a rest, scan cs = .ok (a, rest) → P a

/-- The blanks in front of a part have no influence on what it gives. -/
theorem Gives.part {read : Scan α} {P : α → Prop} (gives : Gives read P) :
    Gives (readPart read) P := by
  intro cs a rest done
  rw [readPart] at done
  split at done
  · cases done
  · exact gives _ _ _ done

/-! ### Numbers -/

/-- Digits are collected up to the limit. -/
theorem fst_collect_le {limit value : Nat} (within : value ≤ limit) (digits : List Char) :
    (collect limit value digits).1 ≤ limit := by
  induction digits generalizing value with
  | nil => exact within
  | cons d digits ih =>
    rw [collect]
    split
    · rename_i fits
      exact ih fits
    · exact within

/-- What is finished as a double is one. -/
theorem gives_finishDouble (negative : Bool) (magnitude : Option Nat) :
    Gives (fun rest => finishDouble negative rest magnitude) Number.Lawful := by
  intro cs number rest done
  cases magnitude with
  | none => cases done
  | some magnitude =>
    cases done
    trivial

/-- A significand and an exponent give a double. -/
theorem gives_readDouble (negative : Bool) (significand : Nat) (exponent : Int) :
    Gives (readDouble negative significand exponent) Number.Lawful := by
  intro cs number rest done
  rw [readDouble] at done
  exact gives_finishDouble negative (scaled? significand exponent) cs number rest done

/-- What has an exponent is a double. -/
theorem gives_readExponent (negative : Bool) (significand : Nat) (point : Int) :
    Gives (readExponent negative significand point) Number.Lawful := by
  intro cs number rest done
  unfold readExponent at done
  split at done
  split at done
  split at done
  · cases done
  · split at done
    · exact gives_readDouble _ _ _ _ _ _ done
    · split at done <;> cases done
      trivial

/-- What does not end behind its whole part is a double. -/
theorem gives_readDoubleEnd (negative : Bool) (significand : Nat) (point : Int) :
    Gives (readDoubleEnd negative significand point) Number.Lawful := by
  intro cs number rest done
  unfold readDoubleEnd at done
  split at done
  · exact gives_readExponent _ _ _ _ _ _ done
  · exact gives_readExponent _ _ _ _ _ _ done
  · exact gives_readDouble _ _ _ _ _ _ done

/-- What has a fraction is a double. -/
theorem gives_readFraction (negative : Bool) (significand : Nat) (point : Int) :
    Gives (readFraction negative significand point) Number.Lawful := by
  intro cs number rest done
  unfold readFraction at done
  dsimp only at done
  split at done
  · cases done
  · exact gives_readDoubleEnd _ _ _ _ _ _ done

/-- A whole number of collected digits fits 64 bits: its significand does, and below the
smallest integer it becomes a double. -/
theorem gives_wholeNumber (negative : Bool) {significand : Nat}
    (within : significand ≤ significandLimit) :
    Gives (wholeNumber negative significand) Number.Lawful := by
  intro cs number rest done
  rw [significandLimit_eq] at within
  unfold wholeNumber at done
  split at done
  · cases done
    exact ⟨by omega, by omega⟩
  · split at done
    · exact gives_readDouble _ _ _ _ _ _ done
    · rename_i inRange
      cases done
      rw [lowest_eq, not_or] at inRange
      exact ⟨by omega, by omega⟩

/-- Collected digits give a number in range, however the numeral goes on. -/
theorem gives_readNumberEnd (negative : Bool) {significand : Nat}
    (within : significand ≤ significandLimit) (left : List Char) :
    Gives (readNumberEnd negative significand left) Number.Lawful := by
  intro cs number rest done
  unfold readNumberEnd at done
  split at done
  · exact gives_readFraction _ _ _ _ _ _ done
  · split at done
    · exact gives_wholeNumber negative within _ _ _ done
    · exact gives_readDoubleEnd _ _ _ _ _ _ done

/-- Behind its sign a numeral gives a number in range. -/
theorem gives_readUnsigned (negative : Bool) :
    Gives (readUnsigned negative) Number.Lawful := by
  intro cs number rest done
  unfold readUnsigned at done
  split at done
  · cases done
  · split at done
    · cases done
    · exact gives_readNumberEnd negative (Nat.zero_le _) _ _ _ _ done
  · split at done
    · exact gives_readNumberEnd negative (fst_collect_le (Nat.zero_le _) _) _ _ _ _ done
    · cases done

/-- A number that has been read is in range. -/
theorem gives_readNumber : Gives readNumber Number.Lawful := by
  intro cs number rest done
  unfold readNumber at done
  split at done
  · exact gives_readUnsigned true _ _ _ done
  · exact gives_readUnsigned false _ _ _ done

/-! ### Items and entries -/

/-- Behind the first item every item has the property of items. -/
theorem gives_readMoreItems {item : Scan α} {P : α → Prop} (each : Gives item P) (steps : Nat) :
    Gives (readMoreItems item steps) fun items => ∀ a ∈ items, P a := by
  induction steps with
  | zero => exact nofun
  | succ steps ih =>
    intro cs items rest done
    rw [readMoreItems] at done
    split at done
    · cases done
    · cases done
      exact List.forall_mem_nil P
    · split at done
      · cases done
      · cases done
      · obtain ⟨⟨first, behind⟩, readFirst, done⟩ := bind_eq_ok.mp done
        obtain ⟨⟨others, behind⟩, readOthers, done⟩ := bind_eq_ok.mp done
        cases done
        exact List.forall_mem_cons.mpr ⟨each _ _ _ readFirst, ih _ _ _ readOthers⟩
    · cases done

/-- Every item of an array has the property of items. -/
theorem gives_readItems {item : Scan α} {P : α → Prop} (each : Gives item P) :
    Gives (readItems item) fun items => ∀ a ∈ items, P a := by
  intro cs items rest done
  unfold readItems at done
  split at done
  · cases done
  · cases done
    exact nofun
  · obtain ⟨⟨first, behind⟩, readFirst, done⟩ := bind_eq_ok.mp done
    obtain ⟨⟨others, behind⟩, readOthers, done⟩ := bind_eq_ok.mp done
    cases done
    exact List.forall_mem_cons.mpr
      ⟨each _ _ _ readFirst, gives_readMoreItems each _ _ _ _ readOthers⟩

/-- The value of an entry has the property of values. -/
theorem gives_readEntry {value : Scan α} {P : α → Prop} (each : Gives value P) :
    Gives (readEntry value) fun entry => P entry.2 := by
  intro cs entry rest done
  obtain ⟨⟨key, behind⟩, _, done⟩ := bind_eq_ok.mp done
  obtain ⟨behind, _, done⟩ := bind_eq_ok.mp done
  obtain ⟨⟨content, behind⟩, readContent, done⟩ := bind_eq_ok.mp done
  cases done
  exact each _ _ _ readContent

/-- Behind the first entry every entry has the property of entries. -/
theorem gives_readMoreEntries {value : Scan α} {P : α → Prop} (each : Gives value P)
    (steps : Nat) :
    Gives (readMoreEntries value steps) fun entries => ∀ entry ∈ entries, P entry.2 := by
  induction steps with
  | zero => exact nofun
  | succ steps ih =>
    intro cs entries rest done
    rw [readMoreEntries] at done
    split at done
    · cases done
    · cases done
      exact List.forall_mem_nil _
    · split at done
      · cases done
      · obtain ⟨⟨first, behind⟩, readFirst, done⟩ := bind_eq_ok.mp done
        obtain ⟨⟨others, behind⟩, readOthers, done⟩ := bind_eq_ok.mp done
        cases done
        exact List.forall_mem_cons.mpr
          ⟨gives_readEntry each _ _ _ readFirst, ih _ _ _ readOthers⟩
      · cases done
      · cases done
    · cases done

/-- Every entry of an object has the property of entries. -/
theorem gives_readEntries {value : Scan α} {P : α → Prop} (each : Gives value P) :
    Gives (readEntries value) fun entries => ∀ entry ∈ entries, P entry.2 := by
  intro cs entries rest done
  unfold readEntries at done
  split at done
  · cases done
  · cases done
    exact nofun
  · obtain ⟨⟨first, behind⟩, readFirst, done⟩ := bind_eq_ok.mp done
    obtain ⟨⟨others, behind⟩, readOthers, done⟩ := bind_eq_ok.mp done
    cases done
    exact List.forall_mem_cons.mpr
      ⟨gives_readEntry each _ _ _ readFirst, gives_readMoreEntries each _ _ _ _ readOthers⟩
  · cases done

/-- Putting entries together adds no value to theirs. -/
theorem forall_mem_mappingOf {P : Value → Prop} {entries : List (String × Value)}
    (each : ∀ entry ∈ entries, P entry.2) : ∀ entry ∈ mappingOf entries, P entry.2 := by
  have later (front : Mapping) (before : ∀ entry ∈ front, P entry.2) :
      ∀ entry ∈ entries.foldl (fun mapping entry => Entries.set entry.1 entry.2 mapping) front,
        P entry.2 := by
    induction entries generalizing front with
    | nil => exact before
    | cons entry rest ih =>
      obtain ⟨first, others⟩ := List.forall_mem_cons.mp each
      refine ih others _ fun changed inside => ?_
      rcases Entries.mem_of_mem_set inside with there | same
      · exact before changed there
      · exact same ▸ first
  exact later [] nofun

/-! ### Readers -/

/-- Entries that are lawful one by one make a lawful mapping, since the mapping is put together
with every key once. -/
theorem lawful_mappingOf {levels : Nat} {entries : List (String × Value)}
    (each : ∀ entry ∈ entries, entry.2.Lawful levels) :
    (Value.mapping (mappingOf entries)).Lawful (levels + 1) :=
  .mapping (unique_mappingOf entries) (forall_mem_mappingOf each)

/-- A value that has been read is lawful on the levels that were left for it. -/
theorem gives_readValue (levels : Nat) : Gives (readValue levels) (Value.Lawful levels) := by
  induction levels using Nat.strongRecOn with
  | ind levels ih =>
  rw [readValue.eq_def]
  refine Gives.part fun cs value rest done => ?_
  split at done
  case h_1 => cases done
  case h_2 | h_3 | h_4 =>
    obtain ⟨behind, _, done⟩ := bind_eq_ok.mp done
    cases done
    exact .scalar trivial
  case h_5 =>
    obtain ⟨⟨text, behind⟩, _, done⟩ := bind_eq_ok.mp done
    cases done
    exact .scalar trivial
  case h_6 =>
    cases levels with
    | zero => cases done
    | succ inner =>
      obtain ⟨⟨items, behind⟩, readThem, done⟩ := bind_eq_ok.mp done
      cases done
      exact .array (gives_readItems (ih inner (Nat.lt_succ_self inner)) _ _ _ readThem)
  case h_7 =>
    cases levels with
    | zero => cases done
    | succ inner =>
      obtain ⟨⟨entries, behind⟩, readThem, done⟩ := bind_eq_ok.mp done
      cases done
      have each := gives_readEntries (ih inner (Nat.lt_succ_self inner)) _ _ _ readThem
      exact lawful_mappingOf each
  case h_8 =>
    split at done
    · obtain ⟨⟨number, behind⟩, readIt, done⟩ := bind_eq_ok.mp done
      cases done
      exact .scalar (gives_readNumber _ _ _ readIt)
    · cases done

/-- A mapping that has been read is lawful on the levels that were left for it. -/
theorem gives_readMapping (levels : Nat) :
    Gives (readMapping levels) fun entries => (Value.mapping entries).Lawful levels := by
  refine Gives.part fun cs entries rest done => ?_
  split at done
  · cases levels with
    | zero => cases done
    | succ inner =>
      obtain ⟨⟨read, behind⟩, readThem, done⟩ := bind_eq_ok.mp done
      cases done
      exact lawful_mappingOf (gives_readEntries (gives_readValue inner) _ _ _ readThem)
  · cases done

/-- What holds of every item on one level less holds of the items of a list. -/
theorem gives_readList {item : Reader α} {P : Nat → α → Prop}
    (each : ∀ levels, Gives (item levels) (P levels)) (levels : Nat) :
    Gives (readList item levels) fun items => ∀ a ∈ items, P (levels - 1) a := by
  refine Gives.part fun cs items rest done => ?_
  split at done
  · cases levels with
    | zero => cases done
    | succ inner => exact gives_readItems (each inner) _ _ _ done
  · cases done

/-- What is there in place of null has been read. -/
theorem gives_readOptional {read : Reader α} {P : α → Prop} {levels : Nat}
    (gives : Gives (read levels) P) :
    Gives (readOptional read levels) fun value => ∀ a ∈ value, P a := by
  intro cs value rest done
  unfold readOptional at done
  split at done
  · obtain ⟨behind, _, done⟩ := bind_eq_ok.mp done
    cases done
    exact nofun
  · obtain ⟨⟨a, behind⟩, readIt, done⟩ := bind_eq_ok.mp done
    cases done
    rintro _ ⟨⟩
    exact gives _ _ _ readIt

/-! ### Records -/

/-- Whatever the fields of a record put into a draft keeps a property of drafts. -/
def Record.Keeps (record : Record σ) (levels : Nat) (P : σ → Prop) : Prop :=
  ∀ field ∈ record.fields, Gives (field.read levels) fun put => ∀ draft, P draft → P (put draft)

/-- Having to be there does not change what a field reads. -/
theorem Field.read_needed (name : String) (read : Reader α) (put : α → σ → σ) :
    (Field.needed name read put).read = (Field.optional name read put).read := rfl

/-- A field keeps a property of drafts if it puts in what may be put in. -/
theorem gives_field {name : String} {read : Reader α} {put : α → σ → σ} {levels : Nat}
    {Q : α → Prop} {P : σ → Prop} (gives : Gives (read levels) Q)
    (fits : ∀ a, Q a → ∀ draft, P draft → P (put a draft)) :
    Gives ((Field.optional name read put).read levels) fun change =>
      ∀ draft, P draft → P (change draft) := by
  intro cs change rest done
  obtain ⟨⟨a, behind⟩, readIt, done⟩ := bind_eq_ok.mp done
  cases done
  exact fits a (gives _ _ _ readIt)

section
variable {record : Record σ} {levels : Nat} {P : σ → Prop}

/-- A record that ends early leaves the draft as it is. -/
theorem gives_endEarly {missing : List (Field σ)} {draft : σ} (holds : P draft) :
    Gives (endEarly record missing draft) P := by
  intro cs result rest done
  unfold endEarly at done
  split at done <;> cases done
  exact holds

/-- The end of an object leaves the draft as it is. -/
theorem gives_endObject (seen : List String) {draft : σ} (holds : P draft) :
    Gives (endObject record seen draft) P := by
  intro cs result rest done
  unfold endObject at done
  split at done <;> cases done
  exact holds

/-- The fields of an array keep the property one after the other. -/
theorem gives_readInOrder (fields : List (Field σ))
    (keeps : ∀ field ∈ fields, Gives (field.read levels) fun put =>
      ∀ draft, P draft → P (put draft)) (first : Bool) {draft : σ} (holds : P draft) :
    Gives (readInOrder record levels fields first draft) P := by
  induction fields generalizing first draft with
  | nil =>
    intro cs result rest done
    obtain ⟨behind, _, done⟩ := bind_eq_ok.mp done
    cases done
    exact holds
  | cons field fields ih =>
    obtain ⟨here, behind⟩ := List.forall_mem_cons.mp keeps
    have taken {cs put following result rest} (readIt : field.read levels cs = .ok (put, following))
        (done : readInOrder record levels fields false (put draft) following =
          .ok (result, rest)) : P result :=
      ih behind false (here _ _ _ readIt draft holds) _ _ _ done
    intro cs result rest done
    unfold readInOrder at done
    dsimp only at done
    split at done
    · cases done
    · exact gives_endEarly holds _ _ _ done
    · split at done
      · obtain ⟨_, readIt, done⟩ := bind_eq_ok.mp done
        exact taken readIt done
      · split at done
        · split at done
          · cases done
          · cases done
          · obtain ⟨_, readIt, done⟩ := bind_eq_ok.mp done
            exact taken readIt done
        · cases done

/-- An entry of an object keeps the property, also if it is passed over. -/
theorem gives_readMember (keeps : record.Keeps levels P) (seen : List String) {draft : σ}
    (holds : P draft) :
    Gives (readMember record levels seen draft) fun read => P read.2 := by
  intro cs read rest done
  obtain ⟨⟨key, behind⟩, _, done⟩ := bind_eq_ok.mp done
  dsimp only at done
  split at done
  · obtain ⟨behind, _, done⟩ := bind_eq_ok.mp done
    obtain ⟨behind, _, done⟩ := bind_eq_ok.mp done
    cases done
    exact holds
  · rename_i field found
    split at done
    · cases done
    · obtain ⟨behind, _, done⟩ := bind_eq_ok.mp done
      obtain ⟨⟨put, behind⟩, readIt, done⟩ := bind_eq_ok.mp done
      cases done
      exact keeps field (List.mem_of_find?_eq_some found) _ _ _ readIt draft holds

/-- The entries of an object keep the property one after the other. -/
theorem gives_readByName (keeps : record.Keeps levels P) (steps : Nat) (first : Bool)
    (seen : List String) {draft : σ} (holds : P draft) :
    Gives (readByName record levels steps first seen draft) P := by
  induction steps generalizing first seen draft with
  | zero => exact nofun
  | succ steps ih =>
    have taken {cs seenToo changed following result rest}
        (readIt : readMember record levels seen draft cs = .ok ((seenToo, changed), following))
        (done : readByName record levels steps false seenToo changed following =
          .ok (result, rest)) : P result :=
      ih false seenToo (gives_readMember keeps seen holds _ _ _ readIt) _ _ _ done
    intro cs result rest done
    unfold readByName at done
    dsimp only at done
    split at done
    · cases done
    · exact gives_endObject seen holds _ _ _ done
    · split at done
      · split at done
        · obtain ⟨_, readIt, done⟩ := bind_eq_ok.mp done
          exact taken readIt done
        · cases done
      · split at done
        · split at done
          · cases done
          · obtain ⟨_, readIt, done⟩ := bind_eq_ok.mp done
            exact taken readIt done
          · cases done
          · cases done
        · cases done

end

/-- A record that has been read has every property that its draft has and its fields keep. -/
theorem gives_readRecord {record : Record σ} {levels : Nat} {P : σ → Prop}
    (holds : P record.draft) (keeps : record.Keeps (levels - 1) P) :
    Gives (readRecord record levels) P := by
  refine Gives.part fun cs result rest done => ?_
  split at done
  · cases done
  · cases done
  · exact gives_readInOrder _ keeps _ holds _ _ _ done
  · exact gives_readByName keeps _ _ _ holds _ _ _ done
  · cases done

/-- A document gives what its reader does on all levels. -/
theorem Gives.parse {read : Reader α} {P : α → Prop} (gives : Gives (read maximalNesting) P)
    {document : String} {a : α} (done : parse read document = .ok a) : P a := by
  unfold Json.parse readAll at done
  split at done
  · rename_i read
    obtain ⟨⟨value, behind⟩, readIt, read⟩ := bind_eq_ok.mp read
    cases done
    dsimp only at read
    split at read <;> cases read
    exact gives _ _ _ readIt
  · cases done

end Json

end DomainSql
