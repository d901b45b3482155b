import DomainSql.Proofs.Json.Records
import DomainSql.Plan

/-!
# Requests survive their documents

A request is read back from the document it is written as. What is absent stays absent,
whether it is written as null or left out, what is empty stays empty, and the mappings keep
their keys in order and their values in kind. So a request and its document compile to the
same plan or are refused for the same reason. The parts of a request that are documents of
their own, and single values, are read back as well.

Two things are asked of the values: their numbers are integers of 64 bits, and their
mappings hold every key once, as every mapping that has been read does.
-/
namespace DomainSql

open Json

/-- The values of a route's filters are exact. -/
def DomainRoute.Exact (route : DomainRoute) : Prop := (Value.mapping route.filters).Exact

/-- The values of rows are exact. -/
def ExactRows (rows : List Row) : Prop := ∀ row ∈ rows, (Value.mapping row).Exact

/-- The values that a request carries are exact. -/
structure Request.Exact (request : Request) : Prop where
  filters : ∀ filters ∈ request.filters, (Value.mapping filters).Exact
  data : ∀ rows ∈ request.data, ExactRows rows
  route : ∀ route ∈ request.domainRoute, route.Exact

/-- Texts are read back from their array. -/
theorem recovers_textArray (texts : List String) :
    Recovers (readList readText) (textArray texts) texts :=
  recovers_readList fun text _ => recovers_readText text

/-- Rows are read back from their array. -/
theorem recovers_rowsValue {rows : List Row} (exact : ExactRows rows) :
    Recovers (readList readMapping) (rowsValue rows) rows :=
  recovers_readList fun row inside => recovers_readMapping (exact row inside)

/-- A text that is written as null when it is absent is read back, absent or not. -/
theorem recovers_textOrNull (text : Option String) :
    Recovers (readOptional readText) (textOrNull text) text := by
  cases text with
  | none => exact recovers_readOptional_null readText
  | some text => exact (recovers_readText text).optional nofun

/-- A page is read back, with the fields that it does not state left out. -/
theorem recovers_page (page : PageQuery) :
    Recovers (readRecord PageQuery.record) page.toValue page := by
  have fills : Fills PageQuery.record {} (entryOf? "pageNumber" word32 page.pageNumber ++
      entryOf? "pageSize" word32 page.pageSize ++ entryOf? "sort" Value.text page.sort) page :=
    ((Fills.entryOf? rfl rfl rfl nofun fun n _ => recovers_readWord32 n).append
      (Fills.entryOf? rfl rfl rfl nofun fun n _ => recovers_readWord32 n)).append
      (Fills.entryOf? rfl rfl rfl nofun fun text _ => recovers_readText text)
  have keys := keys_append_sublist
    (keys_append_sublist (keys_entryOf? "pageNumber" word32 page.pageNumber)
      (keys_entryOf? "pageSize" word32 page.pageSize))
    (keys_entryOf? "sort" Value.text page.sort)
  exact recovers_readRecord fills (keys.nodup (by decide)) (List.nil_subset _)

/-- A route is read back. All of its fields are written but the id column of the leaf, which is left
out when it is absent. -/
theorem recovers_route {route : DomainRoute} (exact : route.Exact) :
    Recovers (readRecord DomainRoute.record) route.toValue route := by
  have path : Fills DomainRoute.record { path := [] } [("path", textArray route.path)]
      { path := route.path } :=
    Fills.field rfl (Or.inr rfl) rfl (recovers_textArray route.path)
  have reverse : Fills DomainRoute.record { path := route.path }
      [("reverse", .bool route.reverse)] { path := route.path, reverse := route.reverse } :=
    Fills.field rfl (Or.inl rfl) rfl (recovers_readBool route.reverse)
  have filters : Fills DomainRoute.record { path := route.path, reverse := route.reverse }
      [("filters", .mapping route.filters)] { route with lastDomainIdColumn := none } :=
    Fills.field rfl (Or.inl rfl) rfl (recovers_readMapping exact)
  have column : Fills DomainRoute.record { route with lastDomainIdColumn := none }
      (entryOf? "lastDomainIdColumn" Value.text route.lastDomainIdColumn) route :=
    Fills.entryOf? rfl rfl rfl nofun fun column _ => recovers_readText column
  have always : (Mapping.keys [("path", textArray route.path), ("reverse", .bool route.reverse),
      ("filters", .mapping route.filters)]).Sublist ["path", "reverse", "filters"] :=
    List.Sublist.refl _
  have keys := keys_append_sublist always
    (keys_entryOf? "lastDomainIdColumn" Value.text route.lastDomainIdColumn)
  refine recovers_readRecord (((path.append reverse).append filters).append column)
    (keys.nodup (by decide)) fun name needed => ?_
  obtain rfl : name = "path" := List.mem_singleton.mp needed
  exact List.mem_cons_self

/-- A request is read back field by field, each from its own entry or from no entry. -/
theorem recovers_request {request : Request} (exact : request.Exact) :
    Recovers (readRecord Request.record) request.toValue request := by
  have operation : Fills Request.record {} [("operation", textOrNull request.operation)]
      { operation := request.operation } :=
    Fills.field rfl (Or.inl rfl) rfl (recovers_textOrNull request.operation)
  have domain : Fills Request.record { operation := request.operation }
      [("domain", textOrNull request.domain)]
      { operation := request.operation, domain := request.domain } :=
    Fills.field rfl (Or.inl rfl) rfl (recovers_textOrNull request.domain)
  have page : Fills Request.record { operation := request.operation, domain := request.domain }
      (entryOf? "page" PageQuery.toValue request.page)
      { operation := request.operation, domain := request.domain, page := request.page } :=
    Fills.entryOf? rfl rfl rfl nofun fun page _ => recovers_page page
  have filters : Fills Request.record
      { operation := request.operation, domain := request.domain, page := request.page }
      (entryOf? "filters" Value.mapping request.filters)
      { request with data := none, columns := none, domainRoute := none } :=
    Fills.entryOf? rfl rfl rfl nofun fun filters inside =>
      recovers_readMapping (exact.filters filters inside)
  have data : Fills Request.record
      { request with data := none, columns := none, domainRoute := none }
      (entryOf? "data" rowsValue request.data)
      { request with columns := none, domainRoute := none } :=
    Fills.entryOf? rfl rfl rfl nofun fun rows inside => recovers_rowsValue (exact.data rows inside)
  have columns : Fills Request.record { request with columns := none, domainRoute := none }
      (entryOf? "columns" textArray request.columns) { request with domainRoute := none } :=
    Fills.entryOf? rfl rfl rfl nofun fun columns _ => recovers_textArray columns
  have route : Fills Request.record { request with domainRoute := none }
      (entryOf? "domainRoute" DomainRoute.toValue request.domainRoute) request :=
    Fills.entryOf? rfl rfl rfl nofun fun route inside => recovers_route (exact.route route inside)
  have always : (Mapping.keys [("operation", textOrNull request.operation),
      ("domain", textOrNull request.domain)]).Sublist ["operation", "domain"] :=
    List.Sublist.refl _
  have keys := keys_append_sublist (keys_append_sublist (keys_append_sublist (keys_append_sublist
    (keys_append_sublist always (keys_entryOf? "page" PageQuery.toValue request.page))
    (keys_entryOf? "filters" Value.mapping request.filters))
    (keys_entryOf? "data" rowsValue request.data))
    (keys_entryOf? "columns" textArray request.columns))
    (keys_entryOf? "domainRoute" DomainRoute.toValue request.domainRoute)
  exact recovers_readRecord ((((((operation.append domain).append page).append filters).append
    data).append columns).append route) (keys.nodup (by decide)) (List.nil_subset _)

/-- Requests, and the parts of requests that are documents of their own, are read back from
their documents, and so are values. An absent operation or domain is there as null. The plan
of a request, or the error that refuses it, is that of its document. -/
theorem documents_read_back :
    (∀ request : Request, request.Exact → request.toValue.nesting ≤ 127 →
      Request.parse (Json.text request.toValue) = .ok request ∧
      (∃ entries, request.toValue = .mapping entries ∧
        (request.operation = none → Mapping.value? entries "operation" = some .null) ∧
        (request.domain = none → Mapping.value? entries "domain" = some .null)) ∧
      ∀ metadata, (Request.parse (Json.text request.toValue)).map (compile metadata) =
        .ok (compile metadata request)) ∧
    (∀ page : PageQuery, Json.parse (readRecord PageQuery.record) (Json.text page.toValue) =
      .ok page) ∧
    (∀ route : DomainRoute, route.Exact → route.toValue.nesting ≤ 127 →
      Json.parse (readRecord DomainRoute.record) (Json.text route.toValue) = .ok route) ∧
    (∀ rows : List Row, ExactRows rows → (rowsValue rows).nesting ≤ 127 →
      Json.parse (readList readMapping) (Json.text (rowsValue rows)) = .ok rows) ∧
    (∀ scalar : Scalar, scalar.Exact →
      Json.parse readScalar (Json.text (.scalar scalar)) = .ok scalar) ∧
    (∀ value : Value, value.Exact → value.nesting ≤ 127 →
      Json.parse readValue (Json.text value) = .ok value) := by
  refine ⟨fun request exact shallow => ?_, fun page => ?_, fun route exact shallow => ?_,
    fun rows exact shallow => ?_, fun scalar exact => ?_, fun value exact shallow => ?_⟩
  · have read : Request.parse (Json.text request.toValue) = .ok request :=
      (recovers_request exact).parse_text shallow
    refine ⟨read, ⟨_, rfl, fun absent => ?_, fun absent => ?_⟩, fun metadata => ?_⟩
    · rw [absent]
      rfl
    · rw [absent]
      rfl
    · rw [read]
      rfl
  · have shallow : page.toValue.nesting ≤ 127 := by
      rcases page with ⟨_ | _, _ | _, _ | _⟩ <;> exact Nat.le_of_ble_eq_true rfl
    exact (recovers_page page).parse_text shallow
  · exact (recovers_route exact).parse_text shallow
  · exact (recovers_rowsValue exact).parse_text shallow
  · exact (recovers_readScalar exact).parse_text (Nat.zero_le _)
  · exact (recovers_readValue exact).parse_text shallow

/-- The least and the largest integer, and an empty array. -/
def extremes : Value := .array [.integer (-2 ^ 63), .integer (2 ^ 64 - 1), .array []]

/-- A row with null and a text that has to be escaped, its keys not in alphabetical order. -/
def escapedRow : Row := [("z", .null), ("a", .text "\x01\t/\"")]

/-- A request with much that could get lost: it has no operation, and fields that are present
but empty. -/
def sparseRequest : Request where
  domain := some "us\\er\n"
  page := some {}
  filters := some [("idIn", extremes), ("nameOr", .mapping escapedRow)]
  data := some []
  columns := some []
  domainRoute := some { path := [], filters := [] }

/-- A request without an operation, whose other parts are there but empty, is read back, and so are
the extremes of integers and a row with characters that have to be escaped. -/
theorem sparseRequest_read_back :
    sparseRequest.Exact ∧ sparseRequest.toValue.nesting ≤ 127 ∧
      Request.parse (Json.text sparseRequest.toValue) = .ok sparseRequest ∧
      Json.parse readValue (Json.text extremes) = .ok extremes ∧
      Json.parse (readList readMapping) (Json.text (rowsValue [escapedRow])) =
        .ok [escapedRow] := by
  have extreme : extremes.Exact := by
    refine Value.Exact.array ?_
    simp only [List.forall_mem_cons]
    exact ⟨.scalar ⟨by decide, by decide⟩, .scalar ⟨by decide, by decide⟩, .array nofun, nofun⟩
  have escaped : (Value.mapping escapedRow).Exact := by
    refine Value.Exact.mapping (by unfold Mapping.Unique; decide) ?_
    simp only [escapedRow, List.forall_mem_cons]
    exact ⟨.scalar trivial, .scalar trivial, nofun⟩
  have exact : sparseRequest.Exact := by
    constructor
    · rintro _ ⟨⟩
      refine Value.Exact.mapping (by unfold Mapping.Unique; decide) ?_
      simp only [List.forall_mem_cons]
      exact ⟨extreme, escaped, nofun⟩
    · rintro _ ⟨⟩
      exact nofun
    · rintro _ ⟨⟩
      exact Value.Exact.mapping List.nodup_nil nofun
  have rows : ExactRows [escapedRow] := List.forall_mem_singleton.mpr escaped
  have shallow : sparseRequest.toValue.nesting ≤ 127 := by decide
  obtain ⟨ofRequest, _, _, ofRows, _, ofValue⟩ := documents_read_back
  exact ⟨exact, shallow, (ofRequest sparseRequest exact shallow).1,
    ofValue extremes extreme (by decide), ofRows [escapedRow] rows (by decide)⟩

end DomainSql
