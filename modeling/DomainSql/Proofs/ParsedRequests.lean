import DomainSql.Proofs.Json.ReadValues
import DomainSql.Proofs.RequestDocuments
import DomainSql.Proofs.WellFormed

/-!
# Requests that have been read

Theorems about requests ask that rows and filters hold every key once, that integers fit 64
bits and that brackets nest no deeper than a document may. A request that has been read from a
document is always like that, whatever the document holds, so these theorems apply to every
request that comes from outside. In particular a request that has been read survives being
written and read again, unless it holds a double.
-/
namespace DomainSql

open Json

/-- The mappings of a request are lawful on the levels that a document leaves for them. -/
structure Request.Lawful (request : Request) : Prop where
  filters : ∀ filters ∈ request.filters, (Value.mapping filters).Lawful 126
  data : ∀ rows ∈ request.data, ∀ row ∈ rows, (Value.mapping row).Lawful 125
  route : ∀ route ∈ request.domainRoute, (Value.mapping route.filters).Lawful 125

/-- The mappings of a request hold no double. -/
structure Request.Doubleless (request : Request) : Prop where
  filters : ∀ filters ∈ request.filters, (Value.mapping filters).Doubleless
  data : ∀ rows ∈ request.data, ∀ row ∈ rows, (Value.mapping row).Doubleless
  route : ∀ route ∈ request.domainRoute, (Value.mapping route.filters).Doubleless

/-- A field that has nothing to do with a property of drafts keeps it. -/
theorem gives_field_unrelated {α σ : Type} {name : String} {read : Reader α} {put : α → σ → σ}
    {P : σ → Prop} (levels : Nat) (same : ∀ a draft, P draft → P (put a draft)) :
    Gives ((Field.optional name read put).read levels) fun change =>
      ∀ draft, P draft → P (change draft) :=
  gives_field (Q := fun _ => True) (fun _ _ _ _ => trivial) fun a _ => same a

/-- A route that has been read has lawful filters, also if it names none. -/
theorem gives_readRoute :
    Gives (readRecord DomainRoute.record 126) fun route =>
      (Value.mapping route.filters).Lawful 125 := by
  refine gives_readRecord (.mapping List.nodup_nil nofun) ?_
  simp only [Record.Keeps, DomainRoute.record, List.forall_mem_cons, Field.read_needed]
  refine ⟨gives_field_unrelated 125 ?path, gives_field_unrelated 125 ?reverse,
    gives_field (gives_readMapping 125) ?filters, gives_field_unrelated 125 ?column, nofun⟩
  case filters => exact fun _ lawful _ _ => lawful
  case path | reverse | column => exact fun _ _ lawful => lawful

/-- Each field of a request puts in what is lawful and leaves the others as they are. -/
theorem Request.keeps_lawful : Request.record.Keeps 126 Request.Lawful := by
  simp only [Record.Keeps, Request.record, List.forall_mem_cons]
  refine ⟨gives_field_unrelated 126 ?operation, gives_field_unrelated 126 ?domain,
    gives_field_unrelated 126 ?page,
    gives_field (gives_readOptional (gives_readMapping 126)) ?filters,
    gives_field (gives_readOptional (gives_readList gives_readMapping 126)) ?data,
    gives_field_unrelated 126 ?columns, gives_field (gives_readOptional gives_readRoute) ?route,
    nofun⟩
  case filters => exact fun _ lawful _ draft => ⟨lawful, draft.data, draft.route⟩
  case data => exact fun _ lawful _ draft => ⟨draft.filters, lawful, draft.route⟩
  case route => exact fun _ lawful _ draft => ⟨draft.filters, draft.data, lawful⟩
  case operation | domain | page | columns =>
    exact fun _ _ draft => ⟨draft.filters, draft.data, draft.route⟩

/-- A request that has been read is lawful. -/
theorem Request.lawful_of_parse {document : String} {request : Request}
    (read : Request.parse document = .ok request) : request.Lawful :=
  Gives.parse (gives_readRecord ⟨nofun, nofun, nofun⟩ Request.keeps_lawful) read

/-- The keys of a lawful mapping are single. -/
theorem Value.Lawful.unique {levels : Nat} {entries : Mapping}
    (lawful : (Value.mapping entries).Lawful levels) : entries.Unique := by
  cases lawful with
  | mapping unique _ => exact unique

/-- In a request that has been read the rows, the filters and the filters of the route hold
every key once. -/
theorem Request.unique_of_parse {document : String} {request : Request}
    (read : Request.parse document = .ok request) :
    request.UniqueKeys ∧ (∀ filters ∈ request.filters, Mapping.Unique filters) ∧
      ∀ route ∈ request.domainRoute, Mapping.Unique route.filters :=
  have lawful := Request.lawful_of_parse read
  ⟨fun rows given row listed => (lawful.data rows given row listed).unique,
    fun filters given => (lawful.filters filters given).unique,
    fun route given => (lawful.route route given).unique⟩

/-! ### Written and read again -/

/-- A lawful request without a double is one that is read back. -/
theorem Request.Lawful.exact {request : Request} (lawful : request.Lawful)
    (whole : request.Doubleless) : request.Exact where
  filters filters given := (lawful.filters filters given).exact (whole.filters filters given)
  data rows given row listed :=
    (lawful.data rows given row listed).exact (whole.data rows given row listed)
  route route given := (lawful.route route given).exact (whole.route route given)

/-- An entry that may be absent nests as deep as its value. -/
theorem nesting_entryOf?_le {α : Type} {key : String} {write : α → Value} {value : Option α}
    {levels : Nat} (each : ∀ a ∈ value, (write a).nesting ≤ levels) :
    ∀ entry ∈ entryOf? key write value, entry.2.nesting ≤ levels := by
  cases value with
  | none => exact nofun
  | some a => exact List.forall_mem_singleton.mpr (each a rfl)

/-- An array of texts is one bracket deep. -/
theorem nesting_textArray_le (texts : List String) : (textArray texts).nesting ≤ 1 := by
  refine Nat.succ_le_succ (nestingOfItems_le.mpr fun item inside => ?_)
  obtain ⟨text, _, rfl⟩ := List.mem_map.mp inside
  exact Nat.le_refl 0

/-- A page is one bracket deep. -/
theorem PageQuery.nesting_toValue_le (page : PageQuery) : page.toValue.nesting ≤ 1 := by
  refine Nat.succ_le_succ (nestingOfEntries_le.mpr ?_)
  simp only [List.forall_mem_append]
  exact ⟨⟨nesting_entryOf?_le fun _ _ => Nat.le_refl 0, nesting_entryOf?_le fun _ _ =>
    Nat.le_refl 0⟩, nesting_entryOf?_le fun _ _ => Nat.le_refl 0⟩

/-- A route is one bracket deeper than its filters. -/
theorem DomainRoute.nesting_toValue_le {route : DomainRoute}
    (lawful : (Value.mapping route.filters).Lawful 125) : route.toValue.nesting ≤ 126 := by
  have path := nesting_textArray_le route.path
  refine Nat.succ_le_succ (nestingOfEntries_le.mpr ?_)
  simp only [List.forall_mem_append, List.forall_mem_cons]
  exact ⟨⟨by omega, Nat.zero_le _, lawful.nesting_le, nofun⟩,
    nesting_entryOf?_le fun _ _ => Nat.zero_le _⟩

/-- A lawful request nests no deeper than a document may. -/
theorem Request.Lawful.nesting_le {request : Request} (lawful : request.Lawful) :
    request.toValue.nesting ≤ 127 := by
  have texts (value : Option String) : (textOrNull value).nesting ≤ 126 := by
    cases value <;> exact Nat.zero_le _
  have page (page : PageQuery) := page.nesting_toValue_le
  have columns (columns : List String) := nesting_textArray_le columns
  have rows (rows : List Row) (given : rows ∈ request.data) : (rowsValue rows).nesting ≤ 126 := by
    refine Nat.succ_le_succ (nestingOfItems_le.mpr fun item inside => ?_)
    obtain ⟨row, listed, rfl⟩ := List.mem_map.mp inside
    exact (lawful.data rows given row listed).nesting_le
  refine Nat.succ_le_succ (nestingOfEntries_le.mpr ?_)
  simp only [List.forall_mem_append, List.forall_mem_cons]
  refine ⟨⟨⟨⟨⟨⟨texts _, texts _, nofun⟩, nesting_entryOf?_le fun p _ => ?_⟩,
    nesting_entryOf?_le fun filters given => (lawful.filters filters given).nesting_le⟩,
    nesting_entryOf?_le rows⟩, nesting_entryOf?_le fun c _ => ?_⟩,
    nesting_entryOf?_le fun route given =>
      DomainRoute.nesting_toValue_le (lawful.route route given)⟩
  · have := page p
    omega
  · have := columns c
    omega

/-- A request that has been read, from whatever document, is read back from its own, if it
holds no double. -/
theorem Request.parse_text_of_parse {document : String} {request : Request}
    (read : Request.parse document = .ok request) (whole : request.Doubleless) :
    Request.parse (Json.text request.toValue) = .ok request :=
  have lawful := Request.lawful_of_parse read
  (recovers_request (lawful.exact whole)).parse_text lawful.nesting_le

end DomainSql
