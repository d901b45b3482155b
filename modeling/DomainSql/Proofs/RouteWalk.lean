import DomainSql.Proofs.Outcomes
import DomainSql.Route

/-!
# The walk of a route

The path of a route read from the leaf to the root is its walk. The links of the
route are the steps of the walk, one for each two domains that follow each other,
and the domains that may carry a query of their own are those strictly between
its ends. The join table of a step is named in the order of the path, so its name
depends on the direction of the walk.

A route that compiles has passed its checks in a fixed order. What they leave
behind is all that the compiled condition is made of.
-/
namespace DomainSql

open Sql

/-- A name passes its check when it is plain. -/
theorem checkIdentifier_eq_ok {key name : String} {passed : Unit} :
    checkIdentifier key name = .ok passed ↔ isIdentifier name = true := by
  simp [checkIdentifier]

namespace DomainRoute

/-- The domains from the leaf to the root. -/
def walk (route : DomainRoute) : List String :=
  if route.reverse then route.path else route.path.reverse

/-- The domains strictly between the leaf and the root. -/
def interior (route : DomainRoute) : List String := route.walk.tail.dropLast

/-- The join table of two domains that follow each other on the walk, named in the
order of the path. -/
def joinTable (naming : Naming) (route : DomainRoute) (near far : String) : TableName :=
  if route.reverse then naming.joinTableName near far else naming.joinTableName far near

/-- The link of a step of the walk. -/
def stepLink (naming : Naming) (route : DomainRoute) (step : String × String) : Link :=
  ⟨step.1, step.2, route.joinTable naming step.1 step.2⟩

/-- Steps taken backwards are the steps of the backward path, each of them turned
round. -/
theorem zip_tail_reverse (path : List String) :
    path.reverse.zip path.reverse.tail = ((path.zip path.tail).map Prod.swap).reverse := by
  apply List.ext_getElem
  · simp
  · intro index inside _
    simp only [List.length_zip, List.length_tail, List.length_reverse] at inside
    simp only [List.getElem_zip, List.getElem_reverse, List.getElem_tail, List.getElem_map,
      List.length_zip, List.length_map, List.length_tail, Prod.swap_prod_mk]
    congr 2 <;> omega

/-- The links of a route are the steps of its walk. -/
theorem links_eq_walk (naming : Naming) (route : DomainRoute) :
    route.links naming = (route.walk.zip route.walk.tail).map (route.stepLink naming) := by
  by_cases asGiven : route.reverse = true
  · have asStep : route.stepLink naming =
        fun step => ⟨step.1, step.2, naming.joinTableName step.1 step.2⟩ := by
      funext step
      simp [stepLink, joinTable, asGiven]
    simp only [links, walk, asGiven, if_true, asStep]
  · have asStep : route.stepLink naming =
        fun step => ⟨step.1, step.2, naming.joinTableName step.2 step.1⟩ := by
      funext step
      simp [stepLink, joinTable, asGiven]
    simp only [links, walk, asGiven, Bool.false_eq_true, if_false, asStep, zip_tail_reverse,
      List.map_reverse, List.map_map, Function.comp_def, Prod.fst_swap, Prod.snd_swap]

/-- A link joins a domain of the walk to the next one. -/
theorem getElem?_links {naming : Naming} {route : DomainRoute} {index : Nat} {link : Link} :
    (route.links naming)[index]? = some link ↔
      route.walk[index]? = some link.near ∧ route.walk[index + 1]? = some link.far ∧
        link.table = route.joinTable naming link.near link.far := by
  obtain ⟨near, far, table⟩ := link
  simp only [links_eq_walk, List.getElem?_map, Option.map_eq_some_iff, List.getElem?_zip_eq_some,
    List.getElem?_tail, stepLink, Link.mk.injEq, Prod.exists]
  constructor
  · rintro ⟨_, _, ⟨nearAt, farAt⟩, rfl, rfl, rfl⟩
    exact ⟨nearAt, farAt, rfl⟩
  · rintro ⟨nearAt, farAt, rfl⟩
    exact ⟨near, far, ⟨nearAt, farAt⟩, rfl, rfl, rfl⟩

/-- There is one domain more than there are links. -/
theorem length_walk {naming : Naming} {route : DomainRoute} {first : Link} {others : List Link}
    (steps : route.links naming = first :: others) :
    route.walk.length = others.length + 2 := by
  have lengths := congrArg List.length steps
  simp only [links_eq_walk, List.length_map, List.length_zip, List.length_tail,
    List.length_cons] at lengths
  omega

/-- The walk starts where its first link does. -/
theorem head?_walk {naming : Naming} {route : DomainRoute} {first : Link} {others : List Link}
    (steps : route.links naming = first :: others) : route.walk.head? = some first.near := by
  have firstAt : (route.links naming)[0]? = some first := by
    rw [steps]
    rfl
  rw [List.head?_eq_getElem?]
  exact (getElem?_links.mp firstAt).1

/-- The domains in between are those of the walk but the first and the last. -/
theorem getElem?_interior {route : DomainRoute} {index : Nat} {domain : String} :
    route.interior[index]? = some domain ↔
      route.walk[index + 1]? = some domain ∧ index + 2 < route.walk.length := by
  simp only [interior, List.getElem?_dropLast, List.length_tail, List.getElem?_tail]
  split
  · have between : index + 2 < route.walk.length := by omega
    simp [between]
  · have outside : ¬ index + 2 < route.walk.length := by omega
    simp [outside]

/-- The near ends of all links but the first are the domains in between. -/
theorem nears_eq_interior {naming : Naming} {route : DomainRoute} {first : Link}
    {others : List Link} (steps : route.links naming = first :: others) :
    others.map Link.near = route.interior := by
  apply List.ext_getElem?
  intro index
  ext domain
  rw [getElem?_interior, length_walk steps, List.getElem?_map, Option.map_eq_some_iff]
  have shifted : others[index]? = (route.links naming)[index + 1]? := by simp [steps]
  constructor
  · rintro ⟨link, present, rfl⟩
    obtain ⟨nearAt, _, _⟩ := getElem?_links.mp (shifted ▸ present)
    obtain ⟨inside, _⟩ := List.getElem?_eq_some_iff.mp present
    exact ⟨nearAt, by omega⟩
  · rintro ⟨domainAt, bound⟩
    have inside : index < others.length := by omega
    have present : others[index]? = some others[index] := List.getElem?_eq_getElem inside
    obtain ⟨nearAt, _, _⟩ := getElem?_links.mp (shifted ▸ present)
    exact ⟨others[index], present, Option.some.inj (nearAt.symm.trans domainAt)⟩

/-- A domain of the walk is a domain of the path. -/
theorem mem_path_of_walk {route : DomainRoute} {index : Nat} {domain : String}
    (domainAt : route.walk[index]? = some domain) : domain ∈ route.path := by
  have inWalk := List.mem_of_getElem? domainAt
  unfold walk at inWalk
  split at inWalk
  · exact inWalk
  · exact List.mem_reverse.mp inWalk

/-- Checked names are plain. -/
theorem checkNames_eq_ok {route : DomainRoute} :
    route.checkNames = .ok () ↔
      (∀ domain ∈ route.path, isIdentifier domain = true) ∧
        ∀ column ∈ route.lastDomainIdColumn, isIdentifier column = true := by
  unfold checkNames
  rw [bind_eq_ok]
  constructor
  · rintro ⟨_, path, column⟩
    constructor
    · intro domain listed
      exact checkIdentifier_eq_ok.mp (forM_eq_ok.mp path domain listed)
    · cases given : route.lastDomainIdColumn with
      | none => simp
      | some name =>
        rw [given] at column
        simpa using checkIdentifier_eq_ok.mp column
  · rintro ⟨path, column⟩
    have passed : ∀ domain ∈ route.path, checkIdentifier domain domain = .ok () := by
      intro domain listed
      exact checkIdentifier_eq_ok.mpr (path domain listed)
    refine ⟨(), forM_eq_ok.mpr passed, ?_⟩
    cases given : route.lastDomainIdColumn with
    | none => rfl
    | some name => exact checkIdentifier_eq_ok.mpr (column name given)

/-- What becomes of the filters on the leaf. There are none, or the first one is
applied, and either all of them are the query on the leaf or none of them is. -/
theorem leafConditions_eq_ok {naming : Naming} {route : DomainRoute} {leaf : String}
    {interior : List String} {conditions : List Condition} :
    (route.leafConditions naming leaf interior).outcome = .ok conditions ↔
      route.leafFilters leaf interior = [] ∧ conditions = [] ∨
      ∃ key value others condition,
        route.leafFilters leaf interior = (key, value) :: others ∧
        (∀ entry ∈ others, entry.1 = queryKey leaf ↔ key = queryKey leaf) ∧
        route.leafCondition naming leaf key value = .ok condition ∧
        conditions = [condition] := by
  unfold leafConditions
  cases found : route.leafFilters leaf interior with
  | nil =>
    simp only [Traced.outcome_pure, Except.ok.injEq]
    constructor
    · rintro rfl
      exact Or.inl ⟨trivial, rfl⟩
    · rintro (⟨_, rfl⟩ | ⟨_, _, _, _, impossible, _⟩)
      · rfl
      · cases impossible
  | cons entry others =>
    obtain ⟨key, value⟩ := entry
    have alike : (others.find? fun entry =>
        decide (entry.1 = queryKey leaf) != decide (key = queryKey leaf)) = none ↔
          ∀ entry ∈ others, entry.1 = queryKey leaf ↔ key = queryKey leaf := by
      simp [List.find?_eq_none]
    cases second : others.find? fun entry =>
        decide (entry.1 = queryKey leaf) != decide (key = queryKey leaf) with
    | some other =>
      have unlike : ¬ ∀ entry ∈ others, entry.1 = queryKey leaf ↔ key = queryKey leaf := by
        rw [← alike, second]
        simp
      simp only [second, Traced.outcome_lift]
      grind
    | none =>
      simp only [second, Traced.outcome_bind_eq_ok, Traced.outcome_lift, Traced.outcome_tell,
        Traced.outcome_pure, Except.ok.injEq]
      have all := alike.mp second
      grind

/-- What a route compiles into: the sub-select of its first link, under the
conditions at the leaf, with the sub-selects of the other links around it. -/
theorem compile_eq_ok {naming : Naming} {route : DomainRoute} {condition : Condition} :
    (route.compile naming).outcome = .ok condition ↔
      ∃ first others conditions outermost,
        route.links naming = first :: others ∧ route.checkNames = .ok () ∧
        (route.leafConditions naming first.near route.interior).outcome = .ok conditions ∧
        others.foldlM (route.followLink naming)
          (.select (naming.joinIdColumn first.far) first.table conditions) = .ok outermost ∧
        condition = .inSelects naming.idColumn [outermost] := by
  unfold compile
  cases steps : route.links naming with
  | nil => simp
  | cons first others =>
    simp only [Traced.outcome_bind_eq_ok, Traced.outcome_lift, Traced.outcome_tell,
      Traced.outcome_pure, nears_eq_interior steps, Except.ok.injEq]
    constructor
    · rintro ⟨_, checked, conditions, atLeaf, outermost, followed, _, _, rfl⟩
      exact ⟨first, others, conditions, outermost, rfl, checked, atLeaf, followed, rfl⟩
    · rintro ⟨_, _, conditions, outermost, same, checked, atLeaf, followed, rfl⟩
      obtain ⟨rfl, rfl⟩ := List.cons.inj same
      exact ⟨(), checked, conditions, atLeaf, outermost, followed, (), trivial, rfl⟩

end DomainRoute

end DomainSql
