import DomainSql.Proofs.Acceptance
import DomainSql.Proofs.FoldedNames
import DomainSql.Proofs.RouteMeaning

/-!
# A route and its reverse

A route leads from the id of its leaf to the ids of its root. Walked in the other
direction, from the id of the root to those of the leaf, it relates the same ids: its
links are the same join tables, and a query on a domain in between asks the same of an
id whichever way the id was reached.

The meaning of a route is told by ids here, and not by rows of join tables as it is
elsewhere. What a sub-select gives is looked at up to equality of values, because that is
all that the condition around it makes use of.
-/
namespace DomainSql.DomainRoute

open Sql

section
variable (naming : Naming) (route : DomainRoute) (database : Database)

/-- What the query on a domain in between, if there is one, asks of an id. -/
def Passes (domain : String) (id : Scalar) : Prop :=
  QueryHolds naming route database domain fun _ => id

/-- A row of the join table of two domains that follow each other on the walk links two
ids. -/
def Linked (near far : String) (left right : Scalar) : Prop :=
  ∃ row ∈ database.rows (route.joinTable naming near far),
    database.Same left (row (naming.joinIdColumn near)) ∧
      database.Same right (row (naming.joinIdColumn far))

/-- Links lead from one id to another over ids of the domains in between, which pass the
queries on these domains. -/
def Leads (near : String) : List String → String → Scalar → Scalar → Prop
  | [], far, left, right => Linked naming route database near far left right
  | domain :: between, far, left, right => ∃ id,
    Linked naming route database near domain left id ∧
      Passes naming route database domain id ∧ Leads domain between far id right

end

section
variable {naming : Naming} {route : DomainRoute} {database : Database}

/-- Links lead on over a last domain in between. -/
theorem leads_concat {near far domain : String} {between : List String} {left right : Scalar} :
    Leads naming route database near (between ++ [domain]) far left right ↔
      ∃ id, Leads naming route database near between domain left id ∧
        Passes naming route database domain id ∧
        Linked naming route database domain far id right := by
  induction between generalizing near left with
  | nil => simp [Leads]
  | cons first rest ih =>
    simp only [List.cons_append, Leads, ih]
    constructor
    · rintro ⟨start, linked, passes, id, leads, last⟩
      exact ⟨id, ⟨start, linked, passes, leads⟩, last⟩
    · rintro ⟨id, ⟨start, linked, passes, leads⟩, last⟩
      exact ⟨start, linked, passes, id, leads, last⟩

/-- Links lead back over the same domains if each of them links the same ids and the same
queries are asked. -/
theorem leads_reverse {other : DomainRoute} {near far : String} {between : List String}
    {left right : Scalar}
    (flip : ∀ near far left right, Linked naming other database near far left right ↔
      Linked naming route database far near right left)
    (alike : ∀ domain id, Passes naming other database domain id ↔
      Passes naming route database domain id) :
    Leads naming other database far between.reverse near right left ↔
      Leads naming route database near between far left right := by
  induction between generalizing near left with
  | nil => exact flip far near right left
  | cons domain rest ih =>
    rw [List.reverse_cons, leads_concat, Leads]
    refine exists_congr fun id => ?_
    rw [ih, flip, alike]
    exact ⟨fun ⟨leads, passes, linked⟩ => ⟨linked, passes, leads⟩,
      fun ⟨linked, passes, leads⟩ => ⟨leads, passes, linked⟩⟩

/-- Equal ids pass the same queries. -/
theorem Passes.of_same {domain : String} {id other : Scalar}
    (passes : Passes naming route database domain id) (same : database.Same other id) :
    Passes naming route database domain other := by
  intro value present
  obtain ⟨query, isMapping, row, stored, named, holds⟩ := passes value present
  exact ⟨query, isMapping, row, stored, same.trans named, holds⟩

/-- The ids that the sub-select of a link gives are linked to ids found before which pass
the query on the near domain. -/
theorem same_followLink {found next : SubSelect} {near far : String} {value : Scalar}
    (compiled : route.followLink naming found (route.stepLink naming (near, far)) = .ok next) :
    (∃ id ∈ next.values database, database.Same value id) ↔
      ∃ id, (∃ before ∈ found.values database, database.Same id before) ∧
        Passes naming route database near id ∧
        Linked naming route database near far id value := by
  simp only [followLink, stepLink, bind_eq_ok, pure_eq_ok] at compiled
  obtain ⟨selects, compiledQuery, rfl⟩ := compiled
  have holds (row : Tuple) :
      (Condition.inSelects (naming.joinIdColumn near) (selects ++ [found])).Holds database row ↔
        Passes naming route database near (row (naming.joinIdColumn near)) ∧
          ∃ before ∈ found.values database,
            database.Same (row (naming.joinIdColumn near)) before := by
    obtain ⟨first, others, shape⟩ : ∃ first others, selects ++ [found] = first :: others :=
      List.exists_cons_of_ne_nil (by simp)
    rw [shape, Condition.holds_inSelects, ← shape, List.forall_mem_append,
      List.forall_mem_singleton, interiorQuery_holds compiledQuery]
    rfl
  simp only [SubSelect.mem_values, List.forall_mem_singleton, holds]
  constructor
  · rintro ⟨_, ⟨row, stored, ⟨passes, before, isFound, same⟩, rfl⟩, given⟩
    exact ⟨_, ⟨before, isFound, same⟩, passes, row, stored, same.trans same.symm, given⟩
  · rintro ⟨id, ⟨before, isFound, same⟩, passes, row, stored, named, given⟩
    exact ⟨_, ⟨row, stored, ⟨passes.of_same named.symm, before, isFound, named.symm.trans same⟩,
      rfl⟩, given⟩

/-- What the sub-select around all links gives is what the links lead to. The induction
goes along the walk, of which the domains in `before` are already behind. -/
theorem same_foldlM_followLink {found outermost : SubSelect} {near domain far : String}
    {before rest between : List String} {start : Scalar}
    (given : ∀ value, (∃ id ∈ found.values database, database.Same value id) ↔
      Leads naming route database near before domain start value)
    (compiled : (((domain :: rest).zip rest).map (route.stepLink naming)).foldlM
      (route.followLink naming) found = .ok outermost)
    (walk : domain :: rest = between ++ [far]) (value : Scalar) :
    (∃ id ∈ outermost.values database, database.Same value id) ↔
      Leads naming route database near (before ++ between) far start value := by
  induction rest generalizing found domain before between with
  | nil =>
    obtain ⟨rfl, rfl⟩ : between = [] ∧ domain = far := by
      cases between <;> simp_all
    have same : found = outermost := by simpa [pure, Except.pure] using compiled
    rw [← same, given, List.append_nil]
  | cons next rest ih =>
    rw [List.zip_cons_cons, List.map_cons, List.foldlM_cons, bind_eq_ok] at compiled
    obtain ⟨inner, step, compiledRest⟩ := compiled
    obtain ⟨between, rfl⟩ : ∃ others, between = domain :: others := by
      cases between <;> simp_all
    have further (value : Scalar) :
        (∃ id ∈ inner.values database, database.Same value id) ↔
          Leads naming route database near (before ++ [domain]) next start value := by
      rw [same_followLink step, leads_concat]
      simp only [given]
    rw [ih further compiledRest (List.cons.inj walk).2, List.append_assoc, List.singleton_append]

/-- A route whose leaf has to have some id holds of the rows whose id the links of the
walk lead to. -/
theorem holds_iff_leads {near far : String} {between : List String} {start : Scalar}
    {condition : Condition} {tuple : Tuple} (walk : route.walk = near :: (between ++ [far]))
    (atLeaf : (route.leafConditions naming near route.interior).outcome =
      .ok [.compare (naming.joinIdColumn near) .equal start])
    (compiled : (route.compile naming).outcome = .ok condition) :
    condition.Holds database tuple ↔
      Leads naming route database near between far start (tuple naming.idColumn) := by
  obtain ⟨first, others, conditions, outermost, steps, _, compiledLeaf, followed, rfl⟩ :=
    compile_eq_ok.mp compiled
  obtain ⟨domain, rest, shape⟩ : ∃ domain rest, between ++ [far] = domain :: rest :=
    List.exists_cons_of_ne_nil (by simp)
  rw [links_eq_walk, walk, shape, List.tail_cons, List.zip_cons_cons, List.map_cons] at steps
  obtain ⟨rfl, rfl⟩ := List.cons.inj steps
  obtain rfl : conditions = _ := Except.ok.inj (compiledLeaf.symm.trans atLeaf)
  have given (value : Scalar) :
      (∃ id ∈ (SubSelect.select (naming.joinIdColumn domain) (route.joinTable naming near domain)
          [.compare (naming.joinIdColumn near) .equal start]).values database,
          database.Same value id) ↔
        Leads naming route database near [] domain start value := by
    simp only [SubSelect.mem_values, List.forall_mem_singleton, Leads, Linked]
    constructor
    · rintro ⟨_, ⟨row, stored, named, rfl⟩, same⟩
      exact ⟨row, stored, Database.Same.symm named, same⟩
    · rintro ⟨row, stored, named, same⟩
      exact ⟨_, ⟨row, stored, named.symm, rfl⟩, same⟩
  rw [Condition.holds_inSelects, List.forall_mem_singleton,
    same_foldlM_followLink given followed shape.symm, List.nil_append]

end

/-- The key of a filter on the id of a domain. -/
def idKey (domain : String) : String := domain ++ "_id"

/-- A plain name in small letters. -/
def Small (name : String) : Prop :=
  isIdentifier name = true ∧ ∀ c ∈ name.toList, c.isUpper = false

/-- Whether a name is plain and small is decided letter by letter. -/
instance (name : String) : Decidable (Small name) :=
  decidable_of_iff (isIdentifier name = true ∧ (name.toList.all fun c => !c.isUpper) = true)
    (by simp [Small])

/-- The key of a filter on an id ends with the suffix of ids. -/
theorem toList_idKey (domain : String) :
    (idKey domain).toList = domain.toList ++ ['_', 'i', 'd'] := by
  simp [idKey]

/-- The key of an id is plain if the domain is. -/
theorem isIdentifier_idKey {domain : String} (plain : isIdentifier domain = true) :
    isIdentifier (idKey domain) = true := by
  obtain ⟨first, rest, letters, starts, continues⟩ := isIdentifier_iff.mp plain
  refine isIdentifier_iff.mpr ⟨first, rest ++ ['_', 'i', 'd'], ?_, starts, ?_⟩
  · rw [toList_idKey, letters, List.cons_append]
  · exact List.forall_mem_append.mpr ⟨continues, List.all_eq_true.mp (by decide)⟩

/-- The capital letters of the key of an id are those of the domain. -/
theorem noCapital_idKey {domain : String} :
    (∀ c ∈ (idKey domain).toList, c.isUpper = false) ↔ ∀ c ∈ domain.toList, c.isUpper = false := by
  rw [toList_idKey, List.forall_mem_append]
  exact and_iff_left (by simp)

/-- The key of an id is in small letters if the domain is. -/
theorem Small.idKey {domain : String} (small : Small domain) : Small (idKey domain) :=
  ⟨isIdentifier_idKey small.1, noCapital_idKey.mpr small.2⟩

/-- The column of a field in small letters is the field itself, folded or not. -/
theorem columnName_of_small (naming : Naming) {field : String} (small : Small field) :
    naming.columnName field = field := by
  unfold Naming.columnName
  split
  · exact Naming.foldField_of_noCapital small.2
  · rfl

/-- The key of an id ends neither with the suffix of alternatives nor with that of an
operator. -/
theorem beforeSuffix?_idKey {suffix : String} (domain : String)
    (known : suffix = alternativesSuffix ∨ ∃ operator : Operator, suffix = operator.suffix) :
    beforeSuffix? suffix (idKey domain) = none := by
  -- no suffix ends with the letters `id`
  have unlike : ¬ suffix.toList.isSuffixOf (idKey domain).toList = true := by
    rw [toList_idKey, List.isSuffixOf, List.reverse_append]
    rcases known with rfl | ⟨operator, rfl⟩
    · simp [alternativesSuffix]
    · cases operator <;> simp [Operator.suffix]
  rw [beforeSuffix?, if_neg unlike]

/-- The key of an id asks for equality. -/
theorem resolve_idKey (domain : String) :
    Operator.resolve (idKey domain) = (idKey domain, .eq) := by
  have noField (operator : Operator) : operator.field? (idKey domain) = none := by
    rw [Operator.field?, beforeSuffix?_idKey domain (Or.inr ⟨operator, rfl⟩), Option.filter_none]
  have none : (Operator.all.findSome? fun operator =>
      (operator.field? (idKey domain)).map (·, operator)) = none := by
    simp [List.findSome?_eq_none_iff, noField]
  rw [Operator.resolve, none, Option.getD_none]

/-- By the default format the id of a domain has one name as a column and as a key. -/
theorem joinIdColumn_eq_idKey {naming : Naming} {domain : String}
    (format : naming.joinIdFormat = "\x7b\x7d_id") :
    naming.joinIdColumn domain = idKey domain := by
  rw [Naming.joinIdColumn, format, Naming.fill, ← String.toList_inj, String.toList_ofList,
    toList_idKey]
  rfl

/-- A filter on the id of a domain asks its column in join tables for a value. -/
theorem compileFilter_idKey {naming : Naming} {domain : String} {id : Scalar}
    (format : naming.joinIdFormat = "\x7b\x7d_id") (small : Small domain) :
    compileFilter naming (idKey domain) (.scalar id) =
      .ok (.compare (naming.joinIdColumn domain) .equal id) := by
  have single : (beforeSuffix? alternativesSuffix (idKey domain)).isSome = false := by
    rw [beforeSuffix?_idKey domain (Or.inl rfl), Option.isSome_none]
  have checked : checkIdentifier (idKey domain) (idKey domain) = .ok () :=
    checkIdentifier_eq_ok.mpr small.idKey.1
  rw [compileFilter, single, if_neg Bool.false_ne_true, compileCondition, resolve_idKey]
  simp only [checked, columnName_of_small naming small.idKey, joinIdColumn_eq_idKey format,
    ok_bind]
  rfl

/-- A route whose filters are one on the id of the leaf and queries on domains in between.
Domains may repeat on the walk. -/
structure FromId (naming : Naming) (route : DomainRoute) (near : String)
    (between : List String) (far : String) (id : Scalar) (queries : Mapping) : Prop where
  walk : route.walk = near :: (between ++ [far])
  last : route.lastDomainIdColumn = none
  small : ∀ domain ∈ near :: (between ++ [far]), Small domain
  filters : route.filters.Perm ((idKey near, .scalar id) :: queries)
  unique : Mapping.Unique queries
  /-- Every query is one on a domain in between. -/
  accepted : ∀ entry ∈ queries, ∃ domain ∈ between, entry.1 = queryKey domain ∧
    ∃ query, entry.2 = .mapping query ∧ Succeeds (compileFilters naming query)

namespace FromId
variable {naming : Naming} {route : DomainRoute} {near far : String} {between : List String}
  {id : Scalar} {queries : Mapping}

/-- The domains in between are those between the two ends of the walk. -/
theorem interior_eq (fromId : FromId naming route near between far id queries) :
    route.interior = between := by
  rw [interior, fromId.walk, List.tail_cons, List.dropLast_concat]

/-- The filter on the id is no query on a domain in between. -/
theorem idKey_ne_queryKey (domain other : String) : idKey domain ≠ queryKey other := by
  intro same
  have ends := congrArg (fun key => key.toList.getLast?) same
  simp [toList_idKey, queryKey, querySuffix] at ends

/-- The filter on the id is the only one on the leaf. -/
theorem leafFilters_eq (fromId : FromId naming route near between far id queries) :
    route.leafFilters near route.interior = [(idKey near, .scalar id)] := by
  have onLeaf : (startsWith (idKey near) near && !isInteriorQuery between (idKey near)) = true := by
    simp [startsWith, toList_idKey, isInteriorQuery, idKey_ne_queryKey]
  have elsewhere : ∀ entry ∈ queries,
      ¬ (startsWith entry.1 near && !isInteriorQuery between entry.1) = true := by
    intro entry listed
    obtain ⟨domain, present, isQuery, _⟩ := fromId.accepted entry listed
    have interior : isInteriorQuery between entry.1 = true := by
      simp only [isInteriorQuery, List.any_eq_true, decide_eq_true_eq]
      exact ⟨domain, present, isQuery⟩
    simp [interior]
  rw [interior_eq fromId, leafFilters, ← List.perm_singleton]
  refine (fromId.filters.filter _).trans (List.Perm.of_eq ?_)
  rw [List.filter_cons, if_pos onLeaf, List.filter_eq_nil_iff.mpr elsewhere]

/-- The one condition at the leaf compares the leaf's column with the id. -/
theorem leafConditions_eq (fromId : FromId naming route near between far id queries)
    (format : naming.joinIdFormat = "\x7b\x7d_id") :
    (route.leafConditions naming near route.interior).outcome =
      .ok [.compare (naming.joinIdColumn near) .equal id] := by
  refine leafConditions_eq_ok.mpr (Or.inr ⟨_, _, [], _, leafFilters_eq fromId, by simp, ?_, rfl⟩)
  exact compileFilter_idKey format (fromId.small near List.mem_cons_self)

/-- The filters of the route hold every key once. -/
theorem unique_filters (fromId : FromId naming route near between far id queries) :
    Mapping.Unique route.filters := by
  have absent : idKey near ∉ Mapping.keys queries := by
    intro inside
    obtain ⟨entry, listed, same⟩ := List.mem_map.mp inside
    obtain ⟨domain, _, isQuery, _⟩ := fromId.accepted entry listed
    exact idKey_ne_queryKey near domain (same.symm.trans isQuery)
  exact (fromId.filters.map Prod.fst).nodup_iff.mpr (List.nodup_cons.mpr ⟨absent, fromId.unique⟩)

/-- Under the key of a query the route has what is listed among the queries. -/
theorem value?_eq_some_iff (fromId : FromId naming route near between far id queries)
    {domain : String} {value : Value} :
    Mapping.value? route.filters (queryKey domain) = some value ↔
      (queryKey domain, value) ∈ queries := by
  rw [Mapping.value?_eq_some_iff (unique_filters fromId), fromId.filters.mem_iff, List.mem_cons]
  refine or_iff_right fun isId => ?_
  exact idKey_ne_queryKey near domain (congrArg Prod.fst isId).symm

/-- The route compiles. -/
theorem compiles (fromId : FromId naming route near between far id queries)
    (format : naming.joinIdFormat = "\x7b\x7d_id") : Succeeds (route.compile naming).outcome := by
  have inWalk {domain : String} : domain ∈ route.path ↔ domain ∈ route.walk := by
    unfold DomainRoute.walk
    split <;> simp
  have length : route.path.length = route.walk.length := by
    unfold DomainRoute.walk
    split <;> simp
  have head : route.walk.head? = some near := by
    rw [fromId.walk]
    rfl
  have onId : WellFormedLeafFilter (idKey near, .scalar id) :=
    succeeds_compileFilter.mp ⟨_, compileFilter_idKey format (fromId.small near List.mem_cons_self)⟩
  refine succeeds_compile.mpr ⟨?_, ?_, ?_, ?_, ?_, ?_⟩
  · rw [length, fromId.walk]
    simp
  · intro domain listed
    exact (fromId.small domain (fromId.walk ▸ inWalk.mp listed)).1
  · simp [fromId.last]
  · intro leaf atHead
    obtain rfl : near = leaf := Option.some.inj (head.symm.trans atHead)
    simp [leafFilters_eq fromId]
  · intro leaf atHead
    obtain rfl : near = leaf := Option.some.inj (head.symm.trans atHead)
    simpa [leafFilters_eq fromId] using onId
  · intro domain _ value present
    obtain ⟨_, _, _, query, isMapping, compiled⟩ :=
      fromId.accepted _ ((value?_eq_some_iff fromId).mp present)
    exact ⟨query, isMapping, succeeds_compileFilters.mp compiled⟩

/-- The compiled route holds of the rows whose id the links lead to. -/
theorem holds_iff (fromId : FromId naming route near between far id queries)
    (format : naming.joinIdFormat = "\x7b\x7d_id") {condition : Condition}
    (compiled : (route.compile naming).outcome = .ok condition) {database : Database}
    {tuple : Tuple} :
    condition.Holds database tuple ↔
      Leads naming route database near between far id (tuple naming.idColumn) :=
  holds_iff_leads fromId.walk (leafConditions_eq fromId format) compiled

end FromId

/-- A route along a path in one of its two directions. -/
def along (path : List String) (reverse : Bool) (filters : Mapping) : DomainRoute :=
  { path, reverse, filters }

/-- The route over a path that starts from one of its ends, whose id is asked for by a
filter, and the one that starts from the other end are converse to each other.

The filters may stand in any order, and the ids may be null: then no row is related. -/
theorem holds_iff_holds_reversed {naming : Naming} {root leaf : String} {between : List String}
    {queries there back : Mapping} {rootId leafId : Scalar}
    (format : naming.joinIdFormat = "\x7b\x7d_id")
    (small : ∀ domain ∈ root :: (between ++ [leaf]), Small domain)
    (unique : Mapping.Unique queries)
    (accepted : ∀ entry ∈ queries, ∃ domain ∈ between, entry.1 = queryKey domain ∧
      ∃ query, entry.2 = .mapping query ∧ Succeeds (compileFilters naming query))
    (fromLeaf : there.Perm ((idKey leaf, .scalar leafId) :: queries))
    (fromRoot : back.Perm ((idKey root, .scalar rootId) :: queries)) :
    ∃ forward backward : Condition,
      (compile naming (along (root :: (between ++ [leaf])) false there)).outcome = .ok forward ∧
      (compile naming (along (root :: (between ++ [leaf])) true back)).outcome = .ok backward ∧
      ∀ database tuple other, tuple naming.idColumn = rootId → other naming.idColumn = leafId →
        (forward.Holds database tuple ↔ backward.Holds database other) := by
  have ofLeaf : FromId naming (along (root :: (between ++ [leaf])) false there) leaf
      between.reverse root leafId queries := by
    refine ⟨?_, rfl, ?_, fromLeaf, unique, ?_⟩
    · simp [along, walk]
    · intro domain listed
      exact small domain (by simp at listed ⊢; tauto)
    · simpa using accepted
  have ofRoot : FromId naming (along (root :: (between ++ [leaf])) true back) root between
      leaf rootId queries :=
    ⟨rfl, rfl, small, fromRoot, unique, accepted⟩
  obtain ⟨forward, forwardCompiled⟩ := ofLeaf.compiles format
  obtain ⟨backward, backwardCompiled⟩ := ofRoot.compiles format
  refine ⟨forward, backward, forwardCompiled, backwardCompiled, ?_⟩
  rintro database tuple other rfl rfl
  rw [ofLeaf.holds_iff format forwardCompiled, ofRoot.holds_iff format backwardCompiled]
  apply leads_reverse
  · intro near far left right
    simp only [Linked, joinTable, and_comm]
    rfl
  · intro domain id
    simp only [Passes, QueryHolds, ofLeaf.value?_eq_some_iff, ofRoot.value?_eq_some_iff]

/-- The query on the roles in between two users: only valid roles count. -/
def validRole : Mapping := [("roleQuery", .mapping [("valid", .bool true)])]

/-- Users who share a valid role, found from either of them. The two filters stand in
different orders. -/
theorem colleagues_converse : ∃ forward backward : Condition,
    (compile {} (along ["user", "role", "user"] false
      (("user_id", .integer 5) :: validRole))).outcome = .ok forward ∧
    (compile {} (along ["user", "role", "user"] true
      (validRole ++ [("user_id", .integer 3)]))).outcome = .ok backward ∧
    ∀ database tuple other, tuple "id" = .number (.integer 3) →
      other "id" = .number (.integer 5) →
      (forward.Holds database tuple ↔ backward.Holds database other) :=
  have accepted : ∀ entry ∈ validRole, ∃ domain ∈ ["role"], entry.1 = queryKey domain ∧
      ∃ query, entry.2 = .mapping query ∧ Succeeds (compileFilters {} query) :=
    List.forall_mem_singleton.mpr
      ⟨"role", List.mem_singleton_self _, rfl, _, rfl, _, rfl⟩
  have unique : Mapping.Unique validRole := by unfold Mapping.Unique; decide
  @holds_iff_holds_reversed {} "user" "user" ["role"] _ _ _ _ _ rfl (by decide) unique accepted
    (List.Perm.refl _) (List.Perm.swap _ _ _)

end DomainSql.DomainRoute
