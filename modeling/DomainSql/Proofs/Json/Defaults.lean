import DomainSql.Proofs.Json.Records

/-!
# Entries that may be left out

An entry may be left out of an object when its value is the default of its field, and so may
entries of objects inside it. What is left of an object then is read as the object is,
provided that the draft of each record holds the defaults.
-/
namespace DomainSql.Json

variable {σ α : Type}

/-- What is left of a value when entries are removed whose values are the defaults. Entries
are also removed inside an entry that stays, if its default is an object. -/
inductive Thinned : Value → Value → Value → Prop
  | whole (defaults value : Value) : Thinned defaults value value
  | removed {defaults full thin : Mapping} {key : String} {value : Value}
      (same : defaults.value? key = some value)
      (rest : Thinned (.mapping defaults) (.mapping full) (.mapping thin)) :
      Thinned (.mapping defaults) (.mapping ((key, value) :: full)) (.mapping thin)
  | kept {defaults full thin : Mapping} {key : String} {value : Value}
      (rest : Thinned (.mapping defaults) (.mapping full) (.mapping thin)) :
      Thinned (.mapping defaults) (.mapping ((key, value) :: full))
        (.mapping ((key, value) :: thin))
  | thinned {defaults full thin : Mapping} {key : String} {inner value less : Value}
      (default : defaults.value? key = some inner) (entry : Thinned inner value less)
      (rest : Thinned (.mapping defaults) (.mapping full) (.mapping thin)) :
      Thinned (.mapping defaults) (.mapping ((key, value) :: full))
        (.mapping ((key, less) :: thin))

/-- A scalar stays whole. -/
theorem Thinned.eq_scalar {defaults less : Value} {scalar : Scalar}
    (thinned : Thinned defaults (.scalar scalar) less) : less = .scalar scalar := by
  cases thinned
  rfl

/-- What is left does not nest deeper. -/
theorem Thinned.nesting_le {defaults full thin : Value} (thinned : Thinned defaults full thin) :
    thin.nesting ≤ full.nesting := by
  induction thinned with
  | whole => exact Nat.le_refl _
  | removed _ _ ih =>
    simp only [Value.nesting, nestingOfEntries] at ih ⊢
    omega
  | kept _ ih =>
    simp only [Value.nesting, nestingOfEntries] at ih ⊢
    omega
  | thinned _ _ _ inside ih =>
    simp only [Value.nesting, nestingOfEntries] at inside ih ⊢
    omega

/-- What is left of an object is an object. Its keys keep their order, and those without a
default are all there. -/
theorem Thinned.exists_entries {defaults full : Mapping} {thin : Value}
    (thinned : Thinned (.mapping defaults) (.mapping full) thin) :
    ∃ entries, thin = .mapping entries ∧ (Mapping.keys entries).Sublist full.keys ∧
      ∀ key ∈ full.keys, defaults.value? key = none → key ∈ Mapping.keys entries := by
  induction full generalizing thin with
  | nil =>
    cases thinned
    exact ⟨[], rfl, List.Sublist.refl _, fun _ absent => absurd absent List.not_mem_nil⟩
  | cons entry full ih =>
    cases thinned with
    | whole => exact ⟨_, rfl, List.Sublist.refl _, fun _ inside _ => inside⟩
    | removed same rest =>
      obtain ⟨_, ⟨⟩, sublist, stay⟩ := ih rest
      refine ⟨_, rfl, sublist.cons _, fun key inside noDefault => ?_⟩
      rcases List.mem_cons.mp inside with rfl | inside
      · rw [noDefault] at same
        cases same
      · exact stay key inside noDefault
    | kept rest =>
      obtain ⟨_, ⟨⟩, sublist, stay⟩ := ih rest
      refine ⟨_, rfl, sublist.cons_cons _, fun key inside noDefault => ?_⟩
      rcases List.mem_cons.mp inside with rfl | inside
      · exact List.mem_cons_self
      · exact List.mem_cons_of_mem _ (stay key inside noDefault)
    | thinned _ _ rest =>
      obtain ⟨_, ⟨⟩, sublist, stay⟩ := ih rest
      refine ⟨_, rfl, sublist.cons_cons _, fun key inside noDefault => ?_⟩
      rcases List.mem_cons.mp inside with rfl | inside
      · exact List.mem_cons_self
      · exact List.mem_cons_of_mem _ (stay key inside noDefault)

/-- Entries that fill a draft whatever is removed from them: each field recovers its value
from what may be left of it, and an entry whose value is the default changes nothing. -/
inductive Settles (record : Record σ) (defaults : Mapping) : σ → Mapping → σ → Prop
  | nil (draft : σ) : Settles record defaults draft [] draft
  | cons {draft result : σ} {key : String} {value : Value} {field : Field σ} {put : σ → σ}
      {entries : Mapping} (found : record.fields.find? (·.name = key) = some field)
      (recovers : Recovers field.read value put)
      (thinned : ∀ inner less, defaults.value? key = some inner → Thinned inner value less →
        Recovers field.read less put)
      (idle : defaults.value? key = some value → put draft = draft)
      (rest : Settles record defaults (put draft) entries result) :
      Settles record defaults draft ((key, value) :: entries) result

/-- What is left of the entries fills the draft as all of them do. -/
theorem Settles.fills {record : Record σ} {defaults full : Mapping} {draft result : σ}
    (settles : Settles record defaults draft full result) {thin : Mapping}
    (thinned : Thinned (.mapping defaults) (.mapping full) (.mapping thin)) :
    Fills record draft thin result := by
  induction settles generalizing thin with
  | nil =>
    cases thinned
    exact Fills.nil _
  | cons found recovers inside idle _ ih =>
    cases thinned with
    | whole => exact Fills.cons found recovers (ih (Thinned.whole _ _))
    | removed same rest => exact idle same ▸ ih rest
    | kept rest => exact Fills.cons found recovers (ih rest)
    | thinned default entry rest => exact Fills.cons found (inside _ _ default entry) (ih rest)

/-- What is recovered from a value is the only thing that is. -/
theorem Recovers.unique {read : Reader α} {value : Value} {a b : α}
    (first : Recovers read value a) (second : Recovers read value b) : a = b := by
  have one := first .none 0 value.nesting (Nat.le_refl _) [] [] blank_nil ends_nil
  have other := second .none 0 value.nesting (Nat.le_refl _) [] [] blank_nil ends_nil
  exact congrArg Prod.fst (Except.ok.inj (one.symm.trans other))

/-- A scalar is recovered from what is left of it, which is all of it. -/
theorem Thinned.recovers {read : Reader α} {defaults less : Value} {scalar : Scalar} {a : α}
    (thinned : Thinned defaults (.scalar scalar) less)
    (recovers : Recovers read (.scalar scalar) a) : Recovers read less a :=
  thinned.eq_scalar ▸ recovers

/-- A field whose default stands in the draft settles, whether its entry is whole, thinned or
removed. -/
theorem Settles.default (key : String) (write : α → Value) {record : Record σ}
    {defaults entries : Mapping} {read : Reader α} {put : α → σ → σ} {standard a : α}
    {draft middle result : σ}
    (found : record.fields.find? (·.name = key) = some (.optional key read put))
    (default : defaults.value? key = some (write standard)) (filled : put a draft = middle)
    (untouched : put standard draft = draft)
    (recovers : ∀ a less, Thinned (write standard) (write a) less → Recovers read less a)
    (rest : Settles record defaults middle entries result) :
    Settles record defaults draft ((key, write a) :: entries) result := by
  subst filled
  have whole (b : α) : Recovers read (write b) b := recovers b _ (Thinned.whole _ _)
  refine Settles.cons found ((whole a).put (Or.inl rfl)) (fun inner less known thinned => ?_)
    (fun same => ?_) rest
  · rw [default] at known
    cases known
    exact (recovers a less thinned).put (Or.inl rfl)
  · rw [default] at same
    have equal : write standard = write a := Option.some.inj same
    obtain rfl : standard = a := (whole standard).unique (equal ▸ whole a)
    exact untouched

/-- A field without a default settles with the whole of its entry. -/
theorem Settles.field {record : Record σ} {defaults entries : Mapping} {key : String}
    {field : Field σ} {read : Reader α} {put : α → σ → σ} {value : Value} {a : α}
    {draft middle result : σ} (found : record.fields.find? (·.name = key) = some field)
    (kind : field = .optional key read put ∨ field = .needed key read put)
    (noDefault : defaults.value? key = none) (filled : put a draft = middle)
    (recovers : Recovers read value a) (rest : Settles record defaults middle entries result) :
    Settles record defaults draft ((key, value) :: entries) result := by
  subst filled
  refine Settles.cons found (recovers.put kind) (fun inner less known => ?_) (fun same => ?_) rest
  · rw [noDefault] at known
    cases known
  · rw [noDefault] at same
    cases same

/-- A field without a default that may be absent settles with its entry, if there is one. -/
theorem Settles.entryOf? {record : Record σ} {defaults entries : Mapping} {key : String}
    {read : Reader α} {put : Option α → σ → σ} {write : α → Value} {value : Option α}
    {draft middle result : σ}
    (found : record.fields.find? (·.name = key) = some (.optional key (readOptional read) put))
    (noDefault : defaults.value? key = none) (untouched : put none draft = draft)
    (filled : put value draft = middle) (present : ∀ a, write a ≠ .null)
    (recovers : ∀ a ∈ value, Recovers read (write a) a)
    (rest : Settles record defaults middle entries result) :
    Settles record defaults draft (entryOf? key write value ++ entries) result := by
  cases value with
  | none =>
    rw [untouched] at filled
    exact filled ▸ rest
  | some a =>
    exact Settles.field found (Or.inl rfl) noDefault filled
      ((recovers a rfl).optional (present a)) rest

end DomainSql.Json
