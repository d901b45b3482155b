import DomainSql.Proofs.Meaning
import DomainSql.Proofs.RouteWalk

/-!
# What a route means

A row is related to the leaf of a route by a chain of rows, one from each join
table of the walk. Two rows that follow each other in the chain agree on the domain
that their tables share, the chain ends at the row's own id, and the filters of the
route are conditions on the rows of the chain.

The compiled condition is nested inside out, one sub-select for each join table.
Its meaning is followed from the innermost sub-select to the outermost one: each
link takes up the rows reached so far, and what the last one gives are the ids.
-/
namespace DomainSql.DomainRoute

open Sql

/-- Every entry of a filter mapping holds of a row. -/
def MappingHolds (naming : Naming) (database : Database) (query : Mapping)
    (tuple : Tuple) : Prop :=
  ∃ conditions, compileFilters naming query = .ok conditions ∧
    ∀ condition ∈ conditions, condition.Holds database tuple

/-- The filter that applies at the leaf: the first one whose key starts with the
name of the leaf and is not the query on a domain in between. -/
def appliedFilter? (route : DomainRoute) (leaf : String) : Option (String × Value) :=
  route.filters.find? fun entry =>
    startsWith entry.1 leaf && !isInteriorQuery route.interior entry.1

/-- The filter that applies at the leaf is the first one that is about the leaf. -/
theorem appliedFilter?_eq_head? (route : DomainRoute) (leaf : String) :
    route.appliedFilter? leaf = (route.leafFilters leaf route.interior).head? := by
  rw [appliedFilter?, leafFilters, List.head?_filter]

/-- What the filter that applies at the leaf asks of a row of the innermost join
table. A mapping is about the leaf's own table, of which the row has to name a row
that it holds of. -/
def LeafHolds (naming : Naming) (route : DomainRoute) (database : Database)
    (leaf key : String) (tuple : Tuple) : Value → Prop
  | .mapping query => ∃ row ∈ database.rows (naming.tableName leaf),
    database.Same (tuple (naming.joinIdColumn leaf))
      (row (route.lastDomainIdColumn.getD naming.idColumn)) ∧
    MappingHolds naming database query row
  | value => ∃ condition, compileFilter naming key value = .ok condition ∧
    condition.Holds database tuple

/-- What the query on a domain in between, if there is one, asks of a row of a join
table: it names a row of the domain that the query holds of. -/
def QueryHolds (naming : Naming) (route : DomainRoute) (database : Database)
    (domain : String) (tuple : Tuple) : Prop :=
  ∀ value, Mapping.value? route.filters (queryKey domain) = some value →
    ∃ query, value = .mapping query ∧ ∃ row ∈ database.rows (naming.tableName domain),
      database.Same (tuple (naming.joinIdColumn domain)) (row naming.idColumn) ∧
      MappingHolds naming database query row

/-- A chain of rows of the join tables relates a row of the request's domain to the
leaf. The row `joined index` belongs to the step of the walk from the domain at
`index` to the one behind it. -/
structure Joins (naming : Naming) (route : DomainRoute) (database : Database)
    (tuple : Tuple) (joined : Nat → Tuple) : Prop where
  /-- Every row of the chain is a row of its join table. -/
  stored : ∀ index near far, route.walk[index]? = some near →
    route.walk[index + 1]? = some far →
    joined index ∈ database.rows (route.joinTable naming near far)
  /-- The last row of the chain names the row by the root's column. -/
  root : ∀ domain, route.walk.getLast? = some domain →
    database.Same (tuple naming.idColumn)
      (joined (route.walk.length - 2) (naming.joinIdColumn domain))
  /-- The two rows around a domain in between name it alike. -/
  meet : ∀ index domain, route.walk[index + 1]? = some domain →
    index + 2 < route.walk.length →
    database.Same (joined (index + 1) (naming.joinIdColumn domain))
      (joined index (naming.joinIdColumn domain))
  /-- The query on a domain in between holds. -/
  queried : ∀ index domain, route.walk[index + 1]? = some domain →
    index + 2 < route.walk.length →
    QueryHolds naming route database domain (joined (index + 1))
  /-- The filter that applies at the leaf holds. -/
  filtered : ∀ leaf key value, route.walk.head? = some leaf →
    route.appliedFilter? leaf = some (key, value) →
    LeafHolds naming route database leaf key (joined 0) value

section
variable {naming : Naming} {route : DomainRoute} {database : Database}

/-- A query on a table, whose ids a column has to be among, holds when the column
names a row that the query holds of. -/
theorem exists_value_query {column : ColumnName} {domain : String} {query : Mapping}
    {conditions : List Condition} {value : Scalar}
    (compiled : compileFilters naming query = .ok conditions) :
    (∃ id ∈ (SubSelect.select column (naming.tableName domain) conditions).values database,
        database.Same value id) ↔
      ∃ row ∈ database.rows (naming.tableName domain),
        database.Same value (row column) ∧ MappingHolds naming database query row := by
  simp only [SubSelect.mem_values, MappingHolds, compiled, Except.ok.injEq, exists_eq_left']
  constructor
  · rintro ⟨_, ⟨row, stored, holds, rfl⟩, same⟩
    exact ⟨row, stored, same, holds⟩
  · rintro ⟨row, stored, same, holds⟩
    exact ⟨row column, ⟨row, stored, holds, rfl⟩, same⟩

/-- The compiled conditions at the leaf say what the applied filter asks for. -/
theorem leafConditions_hold {leaf : String} {conditions : List Condition} {tuple : Tuple}
    (compiled : (route.leafConditions naming leaf route.interior).outcome = .ok conditions) :
    (∀ condition ∈ conditions, condition.Holds database tuple) ↔
      ∀ key value, route.appliedFilter? leaf = some (key, value) →
        LeafHolds naming route database leaf key tuple value := by
  rw [appliedFilter?_eq_head?]
  rcases leafConditions_eq_ok.mp compiled with
    ⟨found, rfl⟩ | ⟨key, value, others, condition, found, _, translated, rfl⟩
  · simp [found]
  · have single : (∀ other asked, ((key, value) :: others).head? = some (other, asked) →
        LeafHolds naming route database leaf other tuple asked) ↔
          LeafHolds naming route database leaf key tuple value := by
      constructor
      · intro each
        exact each key value rfl
      · rintro holds _ _ ⟨⟩
        exact holds
    rw [found, single, List.forall_mem_singleton]
    cases value with
    | mapping query =>
      simp only [leafCondition, bind_eq_ok, pure_eq_ok] at translated
      obtain ⟨inner, compiledQuery, rfl⟩ := translated
      rw [Condition.holds_inSelects, List.forall_mem_singleton]
      exact exists_value_query compiledQuery
    | scalar scalar =>
      simp only [leafCondition] at translated
      simp [LeafHolds, translated]
    | array items =>
      simp only [leafCondition] at translated
      simp [LeafHolds, translated]

/-- The compiled query on a domain in between says what the query asks for. -/
theorem interiorQuery_holds {domain : String} {selects : List SubSelect} {tuple : Tuple}
    (compiled : route.interiorQuery naming domain = .ok selects) :
    (∀ select ∈ selects, ∃ id ∈ select.values database,
        database.Same (tuple (naming.joinIdColumn domain)) id) ↔
      QueryHolds naming route database domain tuple := by
  unfold interiorQuery at compiled
  unfold QueryHolds
  split at compiled
  · rename_i absent
    have none : selects = [] := by simpa using compiled.symm
    simp [none, absent]
  · rename_i query present
    simp only [bind_eq_ok, pure_eq_ok] at compiled
    obtain ⟨conditions, compiledQuery, rfl⟩ := compiled
    simp [present, exists_value_query compiledQuery]
  · simp at compiled

/-- A row of a link's join table takes up a row of the link in front of it: both
name the domain that they share alike, and the query on that domain holds. -/
def Follows (naming : Naming) (route : DomainRoute) (database : Database)
    (previous link : Link) (before after : Tuple) : Prop :=
  after ∈ database.rows link.table ∧
    database.Same (after (naming.joinIdColumn link.near))
      (before (naming.joinIdColumn previous.far)) ∧
    QueryHolds naming route database link.near after

/-- From a row of one link the links behind it lead to a value of the far column of
the last one. -/
def Reaches (naming : Naming) (route : DomainRoute) (database : Database) :
    Link → Tuple → List Link → Scalar → Prop
  | previous, before, [], value => before (naming.joinIdColumn previous.far) = value
  | previous, before, link :: links, value =>
    ∃ after, Follows naming route database previous link before after ∧
      Reaches naming route database link after links value

/-- A link gives the far ids of the rows that take up a row found so far. -/
theorem mem_followLink {found next : SubSelect} {previous link : Link} {value : Scalar}
    {start : Tuple → Prop}
    (given : ∀ id, id ∈ found.values database ↔
      ∃ before, start before ∧ before (naming.joinIdColumn previous.far) = id)
    (compiled : route.followLink naming found link = .ok next) :
    value ∈ next.values database ↔
      ∃ after, (∃ before, start before ∧
          Follows naming route database previous link before after) ∧
        after (naming.joinIdColumn link.far) = value := by
  simp only [followLink, bind_eq_ok, pure_eq_ok] at compiled
  obtain ⟨selects, compiledQuery, rfl⟩ := compiled
  have holds (after : Tuple) :
      (Condition.inSelects (naming.joinIdColumn link.near) (selects ++ [found])).Holds
          database after ↔
        QueryHolds naming route database link.near after ∧
          ∃ before, start before ∧ database.Same (after (naming.joinIdColumn link.near))
            (before (naming.joinIdColumn previous.far)) := by
    rw [← interiorQuery_holds compiledQuery]
    obtain ⟨first, others, shape⟩ : ∃ first others, selects ++ [found] = first :: others :=
      List.exists_cons_of_ne_nil (by simp)
    rw [shape, Condition.holds_inSelects, ← shape, List.forall_mem_append,
      List.forall_mem_singleton]
    simp only [given]
    grind
  simp only [SubSelect.mem_values, List.forall_mem_singleton, holds, Follows]
  grind

/-- The sub-select around all links gives what the links reach from the rows of the
innermost one. The induction goes along the walk: what one link has taken up is
where the next one starts. -/
theorem mem_foldlM_followLink {found outermost : SubSelect} {previous : Link}
    {links : List Link} {value : Scalar} {start : Tuple → Prop}
    (given : ∀ id, id ∈ found.values database ↔
      ∃ before, start before ∧ before (naming.joinIdColumn previous.far) = id)
    (compiled : links.foldlM (route.followLink naming) found = .ok outermost) :
    value ∈ outermost.values database ↔
      ∃ before, start before ∧ Reaches naming route database previous before links value := by
  induction links generalizing found previous start with
  | nil =>
    have same : found = outermost := by simpa [pure, Except.pure] using compiled
    rw [← same, given]
    rfl
  | cons link rest ih =>
    rw [List.foldlM_cons, bind_eq_ok] at compiled
    obtain ⟨next, step, compiledRest⟩ := compiled
    rw [ih (fun id => mem_followLink given step) compiledRest]
    simp only [Reaches]
    grind

/-- A chain of rows with one more row in front of it. -/
def behind (before : Tuple) (joined : Nat → Tuple) : Nat → Tuple
  | 0 => before
  | index + 1 => joined index

/-- A value is reached along links exactly when there is a row for every link, each
of which takes up the one in front of it. -/
theorem reaches_iff_chain {previous : Link} {before : Tuple} {links : List Link}
    {value : Scalar} :
    Reaches naming route database previous before links value ↔
      ∃ joined : Nat → Tuple, joined 0 = before ∧
        (∀ index near far, (previous :: links)[index]? = some near →
          (previous :: links)[index + 1]? = some far →
          Follows naming route database near far (joined index) (joined (index + 1))) ∧
        ∀ last, (previous :: links)[links.length]? = some last →
          joined links.length (naming.joinIdColumn last.far) = value := by
  induction links generalizing previous before with
  | nil =>
    constructor
    · intro reached
      exact ⟨fun _ => before, rfl, by simp, by simpa [Reaches] using reached⟩
    · rintro ⟨joined, rfl, _, last⟩
      exact last previous rfl
  | cons link rest ih =>
    constructor
    · rintro ⟨after, follows, reached⟩
      obtain ⟨joined, rfl, steps, last⟩ := ih.mp reached
      refine ⟨behind before joined, rfl, ?_, last⟩
      intro index near far nearAt farAt
      cases index with
      | zero =>
        have sameNear : previous = near := Option.some.inj nearAt
        have sameFar : link = far := Option.some.inj farAt
        exact sameNear ▸ sameFar ▸ follows
      | succ index => exact steps index near far nearAt farAt
    · rintro ⟨joined, rfl, steps, last⟩
      exact ⟨joined 1, steps 0 previous link rfl rfl, ih.mpr ⟨fun index => joined (index + 1), rfl,
        fun index near far nearAt farAt => steps (index + 1) near far nearAt farAt, last⟩⟩

/-- The chain of rows, told by the links of the route and not by its walk. -/
structure Chained (naming : Naming) (route : DomainRoute) (database : Database) (tuple : Tuple)
    (first : Link) (others : List Link) (joined : Nat → Tuple) : Prop where
  /-- The first row of the chain is one of the innermost join table, of which the filter at the
  leaf holds. -/
  start : joined 0 ∈ database.rows first.table ∧
    ∀ key value, route.appliedFilter? first.near = some (key, value) →
      LeafHolds naming route database first.near key (joined 0) value
  /-- Every row behind it takes up the one in front. -/
  follows : ∀ index near far, (first :: others)[index]? = some near →
    (first :: others)[index + 1]? = some far →
    Follows naming route database near far (joined index) (joined (index + 1))
  /-- The last row names the row by the far domain of the last link. -/
  final : ∀ last, (first :: others)[others.length]? = some last →
    database.Same (tuple naming.idColumn) (joined others.length (naming.joinIdColumn last.far))

section
variable {first : Link} {others : List Link} {tuple : Tuple} {joined : Nat → Tuple}
  (steps : route.links naming = first :: others)
include steps

/-- A link joins two domains of the walk that follow each other. -/
theorem walk_of_link {index : Nat} {link : Link} (present : (first :: others)[index]? = some link) :
    route.walk[index]? = some link.near ∧ route.walk[index + 1]? = some link.far ∧
      link.table = route.joinTable naming link.near link.far :=
  getElem?_links.mp (steps ▸ present)

/-- Two domains of the walk that follow each other are joined by a link. -/
theorem link_of_walk {index : Nat} {near far : String} (nearAt : route.walk[index]? = some near)
    (farAt : route.walk[index + 1]? = some far) :
    (first :: others)[index]? = some ⟨near, far, route.joinTable naming near far⟩ :=
  steps ▸ getElem?_links.mpr ⟨nearAt, farAt, rfl⟩

/-- A chain along the walk is one along its links. -/
theorem Joins.chained (joins : Joins naming route database tuple joined) :
    Chained naming route database tuple first others joined := by
  refine ⟨⟨?_, fun key value => joins.filtered first.near key value (head?_walk steps)⟩, ?_, ?_⟩
  · have firstAt : (first :: others)[0]? = some first := rfl
    obtain ⟨nearAt, farAt, table⟩ := walk_of_link steps firstAt
    exact table ▸ joins.stored 0 first.near first.far nearAt farAt
  · intro index near far nearAt farAt
    obtain ⟨_, shared, _⟩ := walk_of_link steps nearAt
    obtain ⟨domainAt, endAt, table⟩ := walk_of_link steps farAt
    have same : near.far = far.near := Option.some.inj (shared.symm.trans domainAt)
    have between : index + 2 < route.walk.length := (List.getElem?_eq_some_iff.mp endAt).1
    exact ⟨table ▸ joins.stored (index + 1) far.near far.far domainAt endAt,
      same ▸ joins.meet index far.near domainAt between,
      joins.queried index far.near domainAt between⟩
  · intro last lastAt
    obtain ⟨_, endAt, _⟩ := walk_of_link steps lastAt
    have atEnd : route.walk.getLast? = some last.far := by
      rw [List.getLast?_eq_getElem?, length_walk steps]
      exact endAt
    have root := joins.root last.far atEnd
    rwa [length_walk steps] at root

/-- A domain in between is the far end of one link and the near end of the next, so two rows of
the chain meet there. -/
theorem Chained.around (chained : Chained naming route database tuple first others joined)
    {index : Nat} {domain : String} (domainAt : route.walk[index + 1]? = some domain)
    (between : index + 2 < route.walk.length) :
    ∃ near far, near.far = domain ∧ far.near = domain ∧
      Follows naming route database near far (joined index) (joined (index + 1)) := by
  have nearAt := List.getElem?_eq_getElem (show index < route.walk.length by omega)
  have farAt := List.getElem?_eq_getElem between
  exact ⟨_, _, rfl, rfl, chained.follows index _ _ (link_of_walk steps nearAt domainAt)
    (link_of_walk steps domainAt farAt)⟩

/-- Every row of the chain is a row of its join table: the first one, and each that takes up
another. -/
theorem Chained.stored (chained : Chained naming route database tuple first others joined)
    {index : Nat} {near far : String} (nearAt : route.walk[index]? = some near)
    (farAt : route.walk[index + 1]? = some far) :
    joined index ∈ database.rows (route.joinTable naming near far) := by
  have present := link_of_walk steps nearAt farAt
  cases index with
  | zero =>
    have inFirst := chained.start.1
    rwa [Option.some.inj present] at inFirst
  | succ index =>
    have inside : index < route.walk.length := by
      have := (List.getElem?_eq_some_iff.mp nearAt).1
      omega
    have previous := link_of_walk steps (List.getElem?_eq_getElem inside) nearAt
    exact (chained.follows index _ _ previous present).1

/-- The last row of the chain names the row by the root's column. -/
theorem Chained.root (chained : Chained naming route database tuple first others joined)
    {domain : String} (domainAt : route.walk.getLast? = some domain) :
    database.Same (tuple naming.idColumn)
      (joined (route.walk.length - 2) (naming.joinIdColumn domain)) := by
  rw [List.getLast?_eq_getElem?, length_walk steps] at domainAt
  have lastAt : (first :: others)[others.length]? = some (first :: others)[others.length] :=
    List.getElem?_eq_getElem (by simp)
  obtain ⟨_, endAt, _⟩ := walk_of_link steps lastAt
  have same := Option.some.inj (endAt.symm.trans domainAt)
  rw [length_walk steps]
  exact same ▸ chained.final _ lastAt

/-- A chain along the links is one along the walk. -/
theorem Chained.joins (chained : Chained naming route database tuple first others joined) :
    Joins naming route database tuple joined where
  stored _ _ _ nearAt farAt := chained.stored steps nearAt farAt
  root _ domainAt := chained.root steps domainAt
  meet index domain domainAt between := by
    obtain ⟨near, far, rfl, same, _, meets, _⟩ := chained.around steps domainAt between
    exact same ▸ meets
  queried index domain domainAt between := by
    obtain ⟨near, far, _, rfl, _, _, queried⟩ := chained.around steps domainAt between
    exact queried
  filtered leaf key value leafAt := by
    have same := Option.some.inj ((head?_walk steps).symm.trans leafAt)
    exact same ▸ chained.start.2 key value

/-- The chain of rows may be followed along the walk or along its links. -/
theorem joins_iff_chained : Joins naming route database tuple joined ↔
    Chained naming route database tuple first others joined :=
  ⟨fun joins => joins.chained steps, fun chained => chained.joins steps⟩

end

end

/-- A compiled route is true of exactly the rows that a chain of join table rows
relates to the leaf, whatever the database.

The outermost sub-select gives what its links reach from the rows of the innermost
one, so the condition holds when a chain of rows ends at the id of the row. -/
theorem holds_iff_joins {naming : Naming} {route : DomainRoute} {condition : Condition}
    (compiled : (route.compile naming).outcome = .ok condition) (database : Database)
    (tuple : Tuple) :
    condition.Holds database tuple ↔
      ∃ joined : Nat → Tuple, Joins naming route database tuple joined := by
  obtain ⟨first, others, conditions, outermost, steps, _, atLeaf, followed, rfl⟩ :=
    compile_eq_ok.mp compiled
  have given (id : Scalar) :
      id ∈ (SubSelect.select (naming.joinIdColumn first.far) first.table conditions).values
          database ↔
        ∃ before, (before ∈ database.rows first.table ∧
            ∀ condition ∈ conditions, condition.Holds database before) ∧
          before (naming.joinIdColumn first.far) = id := by
    simp only [SubSelect.mem_values, and_assoc]
  rw [Condition.holds_inSelects, List.forall_mem_singleton]
  simp only [mem_foldlM_followLink given followed, reaches_iff_chain, joins_iff_chained steps,
    leafConditions_hold atLeaf]
  constructor
  · rintro ⟨id, ⟨_, start, joined, rfl, follows, final⟩, same⟩
    exact ⟨joined, start, follows, fun last lastAt => final last lastAt ▸ same⟩
  · rintro ⟨joined, start, follows, final⟩
    have lastAt : (first :: others)[others.length]? = some (first :: others)[others.length] :=
      List.getElem?_eq_getElem (by simp)
    exact ⟨_, ⟨joined 0, start, joined, rfl, follows,
      fun last present => by rw [Option.some.inj (lastAt.symm.trans present)]⟩,
      final _ lastAt⟩

/-- A route of four domains from users to menus, with a query on the permissions in
between and a predicate on the user. -/
def menusOfUser : DomainRoute where
  path := ["user", "role", "perm", "menu"]
  reverse := true
  filters := [("permQuery", .mapping [("valid", .bool true)]), ("userId", .integer 3)]

/-- What the route of menus compiles into. -/
def menusOfUserCondition : Condition :=
  .inSelects "id" [.select "menu_id" "j_perm_and_menu" [
    .inSelects "perm_id" [
      .select "id" "t_perm" [.compare "valid" .equal (.bool true)],
      .select "perm_id" "j_role_and_perm" [
        .inSelects "role_id" [
          .select "role_id" "j_user_and_role" [
            .compare "user_id" .equal (.number (.integer 3))]]]]]]

/-- A row with whole numbers in some columns and true in all others. -/
def numbered (cells : List (ColumnName × Int)) : Tuple := fun column =>
  match cells.lookup column with
  | some number => .number (.integer number)
  | none => .bool true

/-- The third user has the menu with number nine. -/
def menuTables : TableName → List Tuple
  | "j_user_and_role" => [numbered [("user_id", 3), ("role_id", 5)]]
  | "j_role_and_perm" => [numbered [("role_id", 5), ("perm_id", 8)]]
  | "t_perm" => [numbered [("id", 8)]]
  | "j_perm_and_menu" => [numbered [("perm_id", 8), ("menu_id", 9)]]
  | _ => []

/-- The ninth menu is joined to the third user, by way of a role and a permission. -/
theorem menu_nine_joins_user_three :
    (menusOfUser.compile {}).outcome = .ok menusOfUserCondition ∧
      ∃ joined : Nat → Tuple, Joins {} menusOfUser
        (Database.usual menuTables fun _ _ => false) (numbered [("id", 9)]) joined :=
  have compiled : (menusOfUser.compile {}).outcome = .ok menusOfUserCondition := by rfl
  have holds : menusOfUserCondition.Holds (Database.usual menuTables fun _ _ => false)
      (numbered [("id", 9)]) := by decide +kernel
  ⟨compiled, (holds_iff_joins compiled _ _).mp holds⟩

end DomainSql.DomainRoute
