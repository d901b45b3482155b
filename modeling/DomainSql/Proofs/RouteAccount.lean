import DomainSql.Proofs.Acceptance
import DomainSql.Proofs.Parts
import Mathlib.Data.List.Count
import Mathlib.Data.List.Nodup

/-!
# What becomes of the filters of a route

A route that compiles accounts for every one of its filters. A filter is applied, and
then it is a part of the compiled condition; or it is on the leaf but comes behind
another filter on the leaf; or it is about no domain of the walk. In the last two cases
it has no effect, and one warning says so.

Domains may repeat on a path and the name of one may begin the name of another. What a
key is about is decided in a fixed order for this reason: the queries on the domains in
between come first, and only a key that is none of them can be about the leaf.
-/
namespace DomainSql

open Sql

/-- An event that is a warning about a filter of a route with this key. -/
def Event.isAbout (key : String) : Event → Bool
  | .routeFilterSuperseded ignored _ => ignored = key
  | .routeFilterUnmatched ignored => ignored = key
  | _ => false

namespace Traced
variable {ε α : Type}

/-- Untraced work tells nothing. -/
@[simp]
theorem events_lift (outcome : Except ε α) : (lift outcome).events = [] := rfl

/-- A result tells of nothing. -/
@[simp]
theorem events_pure (a : α) : (pure a : Traced ε α).events = [] := rfl

/-- What is told are the events. -/
@[simp]
theorem events_tell (events : List Event) : (tell events : Traced ε Unit).events = events := rfl

end Traced

namespace Sql

/-- The sub-selects that a condition itself holds. -/
def Condition.selects : Condition → List SubSelect
  | .inSelects _ selects => selects
  | _ => []

/-- A sub-select stands inside a condition, at any depth. -/
def Condition.Encloses (condition : Condition) (select : SubSelect) : Prop :=
  ∃ part ∈ condition.parts, select ∈ part.selects

/-- A sub-select is another one or stands inside it, at any depth. -/
def SubSelect.Encloses (outer inner : SubSelect) : Prop :=
  inner = outer ∨ ∃ condition ∈ outer.conditions, condition.Encloses inner

/-- What stands inside one of its sub-selects stands inside a condition. -/
theorem Condition.encloses_inSelects {column : ColumnName} {selects : List SubSelect}
    {outer inner : SubSelect} (listed : outer ∈ selects) (inside : outer.Encloses inner) :
    (Condition.inSelects column selects).Encloses inner := by
  rcases inside with rfl | ⟨condition, present, part, inCondition, held⟩
  · exact ⟨_, Condition.mem_parts_self _, listed⟩
  · have inSelect : part ∈ partsOf outer.conditions :=
      mem_partsOf.mpr ⟨condition, present, inCondition⟩
    have inSelects : part ∈ (Condition.inSelects column selects).parts := by
      rw [Condition.parts]
      exact List.mem_cons_of_mem _ (mem_partsOfSelects.mpr ⟨outer, listed, inSelect⟩)
    exact ⟨part, inSelects, held⟩

end Sql

namespace DomainRoute

/-- A key is the query on a domain strictly between the leaf and the root. -/
def QueriesInterior (route : DomainRoute) (key : String) : Prop :=
  ∃ domain ∈ route.interior, key = queryKey domain

/-- A key starts with the name of the leaf and is not the query on a domain in
between. -/
def AboutLeaf (route : DomainRoute) (key : String) : Prop :=
  ∃ leaf, route.walk.head? = some leaf ∧ leaf.toList <+: key.toList ∧
    ¬ route.QueriesInterior key

/-- A key is the first one about the leaf, and the others come later. -/
def FirstOnLeaf (route : DomainRoute) (key : String) (later : List String) : Prop :=
  ∃ earlier, Mapping.keys route.filters = earlier ++ key :: later ∧ route.AboutLeaf key ∧
    ∀ other ∈ earlier, ¬ route.AboutLeaf other

/-- What becomes of a filter. -/
inductive Fate where
  /-- It is compiled. -/
  | applied
  /-- It has no effect because of an earlier filter on the leaf. -/
  | superseded (first : String)
  /-- It has no effect because it is about no domain. -/
  | unmatched
deriving DecidableEq, Repr

/-- A filter meets a fate by its key and its place among the keys. -/
def Meets (route : DomainRoute) (key : String) : Fate → Prop
  | .applied => route.QueriesInterior key ∨ ∃ later, route.FirstOnLeaf key later
  | .superseded first => route.AboutLeaf key ∧ ∃ later, route.FirstOnLeaf first later ∧ key ∈ later
  | .unmatched => ¬ route.QueriesInterior key ∧ ¬ route.AboutLeaf key

/-- The warnings that a filter of some fate is worth. -/
def Fate.warnings (key : String) : Fate → List Event
  | .applied => []
  | .superseded first => [.routeFilterSuperseded key first]
  | .unmatched => [.routeFilterUnmatched key]

/-- The words of these warnings. -/
def Fate.words : Fate → Option String
  | .applied => none
  | .superseded _ => some "only the first route filter on the leaf domain is applied"
  | .unmatched => some "domain route filter matches no domain and is ignored"

/-- A filter is a part of the compiled condition wherever it is about a domain. -/
structure CompiledInto (naming : Naming) (route : DomainRoute) (entry : String × Value)
    (condition : Condition) : Prop where
  /-- At every place in between whose domain the filter is the query on, the ids found
  so far are intersected with those that the query gives. -/
  interior : ∀ index domain far, route.walk[index + 1]? = some domain →
    route.walk[index + 2]? = some far → entry.1 = queryKey domain →
    ∃ query conditions found, entry.2 = .mapping query ∧
      compileFilters naming query = .ok conditions ∧
      condition.Encloses (.select (naming.joinIdColumn far) (route.joinTable naming domain far)
        [.inSelects (naming.joinIdColumn domain)
          [.select naming.idColumn (naming.tableName domain) conditions, found]])
  /-- A filter about the leaf is the condition on the join table of the leaf. -/
  leaf : ∀ leaf far, route.walk[0]? = some leaf → route.walk[1]? = some far →
    route.AboutLeaf entry.1 →
    ∃ part, route.leafCondition naming leaf entry.1 entry.2 = .ok part ∧
      condition.Encloses (.select (naming.joinIdColumn far) (route.joinTable naming leaf far)
        [part])

/-- A filter is accounted for: it meets exactly one fate, its warnings are those of
this fate, and if the fate is to be applied it is compiled. -/
def Accounted (naming : Naming) (route : DomainRoute) (entry : String × Value)
    (condition : Condition) (events : List Event) : Prop :=
  ∃ fate, (∀ other, route.Meets entry.1 other ↔ other = fate) ∧
    events.filter (Event.isAbout entry.1) = fate.warnings entry.1 ∧
    (∀ event ∈ fate.warnings entry.1, event.level = .warn ∧ fate.words = some event.message) ∧
    (fate = .applied → route.CompiledInto naming entry condition)

section
variable {naming : Naming} {route : DomainRoute}

/-- The check for a query on a domain in between finds the keys of such queries. -/
theorem isInteriorQuery_iff {key : String} :
    isInteriorQuery route.interior key = true ↔ route.QueriesInterior key := by
  simp [isInteriorQuery, QueriesInterior]

/-- The check for the start of a key is about its first letters. -/
theorem startsWith_iff {key domain : String} :
    startsWith key domain = true ↔ domain.toList <+: key.toList := by
  simp [startsWith]

/-- The filters that the compiler finds on the leaf are those about the leaf. -/
theorem aboutLeaf_iff {leaf key : String} (head : route.walk.head? = some leaf) :
    route.AboutLeaf key ↔
      (startsWith key leaf && !isInteriorQuery route.interior key) = true := by
  have exactly : route.AboutLeaf key ↔
      leaf.toList <+: key.toList ∧ ¬ route.QueriesInterior key := by
    simp [AboutLeaf, head]
  rw [exactly, Bool.and_eq_true, Bool.not_eq_true', ← Bool.not_eq_true, startsWith_iff,
    isInteriorQuery_iff]

/-- The keys of the filters that the compiler finds on the leaf, in order. -/
theorem keys_leafFilters {leaf : String} :
    Mapping.keys (route.leafFilters leaf route.interior) =
      (Mapping.keys route.filters).filter fun key =>
        startsWith key leaf && !isInteriorQuery route.interior key := by
  rw [Mapping.keys, Mapping.keys, leafFilters, List.filter_map]
  rfl

/-- A key that is the first one about the leaf is the first one that the compiler finds
there, and behind it the compiler finds the later ones about the leaf. -/
theorem keys_leafFilters_eq_cons {leaf key : String} {others : List String}
    (head : route.walk.head? = some leaf) :
    Mapping.keys (route.leafFilters leaf route.interior) = key :: others ↔
      ∃ later, route.FirstOnLeaf key later ∧
        (later.filter fun other =>
          startsWith other leaf && !isInteriorQuery route.interior other) = others := by
  rw [keys_leafFilters, List.filter_eq_cons_iff]
  simp only [FirstOnLeaf, aboutLeaf_iff head]
  constructor
  · rintro ⟨earlier, later, split, noneBefore, about, found⟩
    exact ⟨later, ⟨earlier, split, about, noneBefore⟩, found⟩
  · rintro ⟨later, ⟨earlier, split, about, noneBefore⟩, found⟩
    exact ⟨earlier, later, split, noneBefore, about, found⟩

/-- The filter that comes first on the leaf is applied, as are all queries on the
domains in between. -/
theorem meets_applied {leaf key : String} (head : route.walk.head? = some leaf) :
    route.Meets key .applied ↔
      route.QueriesInterior key ∨
        ∃ others, Mapping.keys (route.leafFilters leaf route.interior) = key :: others := by
  simp only [Meets, keys_leafFilters_eq_cons head]
  refine or_congr_right ⟨?_, ?_⟩
  · rintro ⟨later, first⟩
    exact ⟨_, later, first, rfl⟩
  · rintro ⟨_, later, first, _⟩
    exact ⟨later, first⟩

/-- The filters behind the first one on the leaf are superseded by it. -/
theorem meets_superseded {leaf key first : String} (head : route.walk.head? = some leaf) :
    route.Meets key (.superseded first) ↔
      ∃ others, Mapping.keys (route.leafFilters leaf route.interior) = first :: others ∧
        key ∈ others := by
  simp only [Meets, keys_leafFilters_eq_cons head, aboutLeaf_iff head]
  constructor
  · rintro ⟨about, later, isFirst, inLater⟩
    exact ⟨_, ⟨later, isFirst, rfl⟩, List.mem_filter.mpr ⟨inLater, about⟩⟩
  · rintro ⟨_, ⟨later, isFirst, rfl⟩, found⟩
    obtain ⟨inLater, about⟩ := List.mem_filter.mp found
    exact ⟨about, later, isFirst, inLater⟩

/-- The keys about no domain are those that the compiler finds unmatched. -/
theorem mem_unmatchedKeys {leaf key : String} (head : route.walk.head? = some leaf) :
    key ∈ route.unmatchedKeys leaf route.interior ↔
      key ∈ Mapping.keys route.filters ∧ route.Meets key .unmatched := by
  rw [unmatchedKeys, List.mem_filter, Meets, aboutLeaf_iff head, ← isInteriorQuery_iff]
  cases startsWith key leaf <;> cases isInteriorQuery route.interior key <;> simp

/-- The keys that the compiler finds on the leaf are about it. -/
theorem mem_keys_leafFilters {leaf key : String} (head : route.walk.head? = some leaf) :
    key ∈ Mapping.keys (route.leafFilters leaf route.interior) ↔
      key ∈ Mapping.keys route.filters ∧ route.AboutLeaf key := by
  rw [keys_leafFilters, List.mem_filter, aboutLeaf_iff head]

/-- A key about the leaf is no query on a domain in between. -/
theorem AboutLeaf.not_queriesInterior {key : String} (about : route.AboutLeaf key) :
    ¬ route.QueriesInterior key := by
  obtain ⟨_, _, _, other⟩ := about
  exact other

/-- Every filter meets a fate. -/
theorem exists_fate {leaf key : String} (head : route.walk.head? = some leaf)
    (listed : key ∈ Mapping.keys route.filters) : ∃ fate, route.Meets key fate := by
  by_cases queries : route.QueriesInterior key
  · exact ⟨.applied, Or.inl queries⟩
  by_cases about : route.AboutLeaf key
  · have found := (mem_keys_leafFilters head).mpr ⟨listed, about⟩
    obtain ⟨first, others, shape⟩ := List.exists_cons_of_ne_nil (List.ne_nil_of_mem found)
    rw [shape] at found
    rcases List.mem_cons.mp found with rfl | behindFirst
    · exact ⟨.applied, (meets_applied head).mpr (Or.inr ⟨others, shape⟩)⟩
    · exact ⟨.superseded first, (meets_superseded head).mpr ⟨others, shape, behindFirst⟩⟩
  · exact ⟨.unmatched, queries, about⟩

/-- No filter meets two fates, because a key stands only once among the filters. -/
theorem fate_unique {leaf key : String} {fate other : Fate}
    (head : route.walk.head? = some leaf) (unique : Mapping.Unique route.filters)
    (meets : route.Meets key fate) (meetsToo : route.Meets key other) : other = fate := by
  have single : (Mapping.keys (route.leafFilters leaf route.interior)).Nodup := by
    rw [keys_leafFilters]
    exact unique.filter _
  -- applied and superseded exclude each other: the first key does not come again
  have notBoth {first : String} (applied : route.Meets key .applied)
      (superseded : route.Meets key (.superseded first)) : False := by
    have about := superseded.1
    obtain ⟨others, shape, behindFirst⟩ := (meets_superseded head).mp superseded
    rcases (meets_applied head).mp applied with queries | ⟨rest, isFirst⟩
    · exact about.not_queriesInterior queries
    · rw [shape] at isFirst single
      obtain ⟨rfl, rfl⟩ := List.cons.inj isFirst
      exact (List.nodup_cons.mp single).1 behindFirst
  have notNeither (applied : route.Meets key .applied) (unmatched : route.Meets key .unmatched) :
      False := by
    obtain ⟨noQuery, notAbout⟩ := unmatched
    rcases applied with queries | ⟨_, _, _, about, _⟩
    · exact noQuery queries
    · exact notAbout about
  have notUnmatched {first : String} (superseded : route.Meets key (.superseded first))
      (unmatched : route.Meets key .unmatched) : False := unmatched.2 superseded.1
  match fate, other with
  | .applied, .applied | .unmatched, .unmatched => rfl
  | .applied, .superseded _ => exact (notBoth meets meetsToo).elim
  | .superseded _, .applied => exact (notBoth meetsToo meets).elim
  | .applied, .unmatched => exact (notNeither meets meetsToo).elim
  | .unmatched, .applied => exact (notNeither meetsToo meets).elim
  | .superseded _, .unmatched => exact (notUnmatched meets meetsToo).elim
  | .unmatched, .superseded _ => exact (notUnmatched meetsToo meets).elim
  | .superseded first, .superseded second =>
    obtain ⟨others, shape, _⟩ := (meets_superseded head).mp meets
    obtain ⟨rest, shapeToo, _⟩ := (meets_superseded head).mp meetsToo
    rw [(List.cons.inj (shapeToo.symm.trans shape)).1]

/-- The fate that a filter meets is the only one. -/
theorem meets_iff_eq {leaf key : String} {fate other : Fate}
    (head : route.walk.head? = some leaf) (unique : Mapping.Unique route.filters)
    (meets : route.Meets key fate) : route.Meets key other ↔ other = fate := by
  constructor
  · exact fate_unique head unique meets
  · rintro rfl
    exact meets

/-- The warnings about the filters on the leaf: the first one supersedes the others. -/
def supersededWarnings : List String → List Event
  | [] => []
  | first :: others => others.map fun key => .routeFilterSuperseded key first

/-- A route that compiles has warned about the filters on the leaf that it does not
apply. -/
theorem events_leafConditions {leaf : String} {interior : List String}
    {conditions : List Condition}
    (compiled : (route.leafConditions naming leaf interior).outcome = .ok conditions) :
    (route.leafConditions naming leaf interior).events =
      supersededWarnings (Mapping.keys (route.leafFilters leaf interior)) := by
  unfold leafConditions at compiled ⊢
  cases found : route.leafFilters leaf interior with
  | nil => rfl
  | cons entry others =>
    obtain ⟨key, value⟩ := entry
    simp only [found] at compiled ⊢
    cases second : others.find? fun entry =>
        decide (entry.1 = queryKey leaf) != decide (key = queryKey leaf) with
    | some other =>
      simp only [second] at compiled
      cases compiled
    | none =>
      simp only [second, Traced.outcome_bind_eq_ok, Traced.outcome_lift] at compiled ⊢
      obtain ⟨_, _, condition, translated, _⟩ := compiled
      rw [Traced.events_bind_ok (Traced.outcome_tell _), Traced.events_bind_ok translated]
      simp [supersededWarnings, Mapping.keys]

/-- What a route that compiles warns about: first the filters on the leaf that it does
not apply, then those that are about no domain. -/
theorem events_compile {condition : Condition}
    (compiled : (route.compile naming).outcome = .ok condition) :
    ∃ leaf, route.walk.head? = some leaf ∧ (route.compile naming).events =
      supersededWarnings (Mapping.keys (route.leafFilters leaf route.interior)) ++
        (route.unmatchedKeys leaf route.interior).map .routeFilterUnmatched := by
  obtain ⟨first, others, conditions, outermost, steps, checked, atLeaf, followed, rfl⟩ :=
    compile_eq_ok.mp compiled
  refine ⟨first.near, head?_walk steps, ?_⟩
  unfold compile
  simp only [steps, nears_eq_interior steps]
  rw [Traced.events_bind_ok checked, Traced.events_bind_ok atLeaf, Traced.events_bind_ok followed,
    Traced.events_bind_ok (Traced.outcome_tell _), events_leafConditions atLeaf]
  simp

/-- Of events that are each about a key of a list without repetitions, one is about a
key of the list. -/
theorem filter_isAbout {keys : List String} {event : String → Event} (single : keys.Nodup)
    (about : ∀ key other, (event other).isAbout key = decide (other = key)) (key : String) :
    (keys.map event).filter (Event.isAbout key) = if key ∈ keys then [event key] else [] := by
  have own : Event.isAbout key ∘ event = fun other => decide (other = key) := by
    funext other
    exact about key other
  rw [List.filter_map, own, List.filter_eq, single.count]
  split <;> simp

/-- A filter is warned of as unmatched if this is its fate. -/
theorem filter_isAbout_unmatched {leaf key : String} {fate : Fate}
    (head : route.walk.head? = some leaf) (unique : Mapping.Unique route.filters)
    (listed : key ∈ Mapping.keys route.filters) (meets : route.Meets key fate) :
    ((route.unmatchedKeys leaf route.interior).map .routeFilterUnmatched).filter
      (Event.isAbout key) = if fate = .unmatched then [.routeFilterUnmatched key] else [] := by
  have single : (route.unmatchedKeys leaf route.interior).Nodup := unique.filter _
  rw [filter_isAbout single fun _ _ => rfl]
  simp only [mem_unmatchedKeys head, meets_iff_eq head unique meets, listed, true_and, eq_comm]

/-- A filter is warned of on the leaf as its fate says, unless it is applied or about no
domain. -/
theorem filter_isAbout_superseded {leaf key : String} {fate : Fate}
    (head : route.walk.head? = some leaf) (unique : Mapping.Unique route.filters)
    (meets : route.Meets key fate) :
    (supersededWarnings (Mapping.keys (route.leafFilters leaf route.interior))).filter
      (Event.isAbout key) =
        if fate = .applied ∨ fate = .unmatched then [] else fate.warnings key := by
  have single : (Mapping.keys (route.leafFilters leaf route.interior)).Nodup := by
    rw [keys_leafFilters]
    exact unique.filter _
  have asFirst (first : String) : (∃ others,
      Mapping.keys (route.leafFilters leaf route.interior) = first :: others ∧ key ∈ others) ↔
        .superseded first = fate :=
    (meets_superseded head).symm.trans (meets_iff_eq head unique meets)
  cases found : Mapping.keys (route.leafFilters leaf route.interior) with
  | nil =>
    cases fate with
    | superseded first => simpa [found] using asFirst first
    | applied | unmatched => simp [supersededWarnings]
  | cons first others =>
    rw [found] at single
    have behindFirst : key ∈ others ↔ fate = .superseded first := by
      simpa [found, eq_comm] using asFirst first
    rw [supersededWarnings, filter_isAbout single.of_cons fun _ _ => rfl]
    cases fate with
    | superseded other =>
      obtain ⟨_, shape, inside⟩ := (asFirst other).mpr rfl
      obtain ⟨rfl, rfl⟩ := List.cons.inj (found.symm.trans shape)
      simp [inside, Fate.warnings]
    | applied | unmatched => simp [behindFirst]

/-- The warnings about a filter are those of its fate. -/
theorem filter_isAbout_events {condition : Condition} {key : String} {fate : Fate}
    (unique : Mapping.Unique route.filters)
    (compiled : (route.compile naming).outcome = .ok condition)
    (listed : key ∈ Mapping.keys route.filters) (meets : route.Meets key fate) :
    (route.compile naming).events.filter (Event.isAbout key) = fate.warnings key := by
  obtain ⟨leaf, head, events⟩ := events_compile compiled
  rw [events, List.filter_append, filter_isAbout_superseded head unique meets,
    filter_isAbout_unmatched head unique listed meets]
  cases fate <;> simp [Fate.warnings]

/-- Every event of a route that compiles is about one of its filters. -/
theorem isAbout_of_mem_events {condition : Condition}
    (compiled : (route.compile naming).outcome = .ok condition) {event : Event}
    (told : event ∈ (route.compile naming).events) :
    ∃ entry ∈ route.filters, event.isAbout entry.1 = true := by
  obtain ⟨leaf, head, events⟩ := events_compile compiled
  have aboutListed {key : String} (listed : key ∈ Mapping.keys route.filters)
      (about : event.isAbout key = true) :
      ∃ entry ∈ route.filters, event.isAbout entry.1 = true := by
    obtain ⟨entry, present, rfl⟩ := List.mem_map.mp listed
    exact ⟨entry, present, about⟩
  rw [events] at told
  rcases List.mem_append.mp told with onLeaf | matchless
  · cases found : Mapping.keys (route.leafFilters leaf route.interior) with
    | nil => simp [found, supersededWarnings] at onLeaf
    | cons first others =>
      rw [found, supersededWarnings] at onLeaf
      obtain ⟨key, behindFirst, rfl⟩ := List.mem_map.mp onLeaf
      have onList : key ∈ Mapping.keys (route.leafFilters leaf route.interior) := by
        rw [found]
        exact List.mem_cons_of_mem _ behindFirst
      exact aboutListed ((mem_keys_leafFilters head).mp onList).1 (by simp [Event.isAbout])
  · obtain ⟨key, inside, rfl⟩ := List.mem_map.mp matchless
    exact aboutListed ((mem_unmatchedKeys head).mp inside).1 (by simp [Event.isAbout])

/-- A link keeps what stands inside the sub-select that it is put around. -/
theorem followLink_encloses {found next inner : SubSelect} {link : Link}
    (inside : found.Encloses inner) (compiled : route.followLink naming found link = .ok next) :
    next.Encloses inner := by
  simp only [followLink, bind_eq_ok, pure_eq_ok] at compiled
  obtain ⟨query, _, rfl⟩ := compiled
  have last : found ∈ query ++ [found] := by simp
  exact Or.inr ⟨_, List.mem_singleton_self _, Condition.encloses_inSelects last inside⟩

/-- All links together keep it, too. -/
theorem foldlM_followLink_encloses {found outermost inner : SubSelect} {links : List Link}
    (inside : found.Encloses inner)
    (compiled : links.foldlM (route.followLink naming) found = .ok outermost) :
    outermost.Encloses inner := by
  induction links generalizing found with
  | nil =>
    have same : found = outermost := by simpa [pure, Except.pure] using compiled
    exact same ▸ inside
  | cons link rest ih =>
    rw [List.foldlM_cons, bind_eq_ok] at compiled
    obtain ⟨next, step, compiledRest⟩ := compiled
    exact ih (followLink_encloses inside step) compiledRest

/-- The sub-select of every link stands inside the outermost one. -/
theorem exists_followLink {found outermost : SubSelect} {links : List Link} {link : Link}
    (compiled : links.foldlM (route.followLink naming) found = .ok outermost)
    (listed : link ∈ links) :
    ∃ before next, route.followLink naming before link = .ok next ∧ outermost.Encloses next := by
  induction links generalizing found with
  | nil => exact absurd listed List.not_mem_nil
  | cons first rest ih =>
    rw [List.foldlM_cons, bind_eq_ok] at compiled
    obtain ⟨next, step, compiledRest⟩ := compiled
    rcases List.mem_cons.mp listed with rfl | inRest
    · exact ⟨found, next, step, foldlM_followLink_encloses (Or.inl rfl) compiledRest⟩
    · exact ih compiledRest inRest

/-- A query on a domain in between becomes a sub-select on the domain's own table. -/
theorem interiorQuery_of_value {domain : String} {value : Value} {selects : List SubSelect}
    (present : Mapping.value? route.filters (queryKey domain) = some value)
    (compiled : route.interiorQuery naming domain = .ok selects) :
    ∃ query conditions, value = .mapping query ∧ compileFilters naming query = .ok conditions ∧
      selects = [.select naming.idColumn (naming.tableName domain) conditions] := by
  unfold interiorQuery at compiled
  rw [present] at compiled
  cases value with
  | mapping query =>
    simp only [bind_eq_ok, pure_eq_ok] at compiled
    obtain ⟨conditions, compiledQuery, rfl⟩ := compiled
    exact ⟨query, conditions, rfl, compiledQuery, rfl⟩
  | scalar scalar => cases compiled
  | array items => cases compiled

/-- The ids found so far are intersected with those that the query on a domain in between
gives. -/
theorem followLink_of_query {found next : SubSelect} {link : Link} {value : Value}
    (present : Mapping.value? route.filters (queryKey link.near) = some value)
    (compiled : route.followLink naming found link = .ok next) :
    ∃ query conditions, value = .mapping query ∧ compileFilters naming query = .ok conditions ∧
      next = .select (naming.joinIdColumn link.far) link.table
        [.inSelects (naming.joinIdColumn link.near)
          [.select naming.idColumn (naming.tableName link.near) conditions, found]] := by
  simp only [followLink, bind_eq_ok, pure_eq_ok] at compiled
  obtain ⟨selects, compiledQuery, rfl⟩ := compiled
  obtain ⟨query, conditions, isMapping, compiledInner, rfl⟩ :=
    interiorQuery_of_value present compiledQuery
  exact ⟨query, conditions, isMapping, compiledInner, rfl⟩

/-- The filter that comes first on the leaf is the only condition there. -/
theorem leafCondition_of_first {leaf : String} {entry : String × Value} {keys : List String}
    {conditions : List Condition} (unique : Mapping.Unique route.filters)
    (listed : entry ∈ route.filters)
    (isFirst : Mapping.keys (route.leafFilters leaf route.interior) = entry.1 :: keys)
    (compiled :
      (route.leafConditions naming leaf route.interior).outcome = .ok conditions) :
    ∃ part, route.leafCondition naming leaf entry.1 entry.2 = .ok part ∧
      conditions = [part] := by
  rcases leafConditions_eq_ok.mp compiled with
    ⟨none, _⟩ | ⟨key, value, rest, part, found, _, translated, rfl⟩
  · simp [none, Mapping.keys] at isFirst
  · rw [found] at isFirst
    have sameKey : key = entry.1 := (List.cons.inj isFirst).1
    have onLeaf : (key, value) ∈ route.leafFilters leaf route.interior := by
      rw [found]
      exact List.mem_cons_self
    have present := (Mapping.value?_eq_some_iff unique).mpr (List.mem_filter.mp onLeaf).1
    rw [sameKey, (Mapping.value?_eq_some_iff unique).mpr listed] at present
    rw [← sameKey, Option.some.inj present]
    exact ⟨part, translated, rfl⟩

/-- A filter that is to be applied is a part of the compiled condition. -/
theorem compiledInto_of_applied {condition : Condition} {entry : String × Value}
    (unique : Mapping.Unique route.filters)
    (compiled : (route.compile naming).outcome = .ok condition) (listed : entry ∈ route.filters)
    (applied : route.Meets entry.1 .applied) :
    route.CompiledInto naming entry condition := by
  obtain ⟨first, others, conditions, outermost, steps, _, atLeaf, followed, rfl⟩ :=
    compile_eq_ok.mp compiled
  have head := head?_walk steps
  have linkAt {index : Nat} {near far : String} (nearAt : route.walk[index]? = some near)
      (farAt : route.walk[index + 1]? = some far) :
      (first :: others)[index]? = some ⟨near, far, route.joinTable naming near far⟩ :=
    steps ▸ getElem?_links.mpr ⟨nearAt, farAt, rfl⟩
  have inCondition {inner : SubSelect} (inside : outermost.Encloses inner) :
      (Condition.inSelects naming.idColumn [outermost]).Encloses inner :=
    Condition.encloses_inSelects (List.mem_singleton_self _) inside
  constructor
  · intro index domain far domainAt farAt isQuery
    have inOthers : _ ∈ others := List.mem_of_getElem? (linkAt domainAt farAt)
    obtain ⟨found, next, step, inside⟩ := exists_followLink followed inOthers
    have present : Mapping.value? route.filters (queryKey domain) = some entry.2 :=
      isQuery ▸ (Mapping.value?_eq_some_iff unique).mpr listed
    obtain ⟨query, inner, isMapping, compiledInner, rfl⟩ := followLink_of_query present step
    exact ⟨query, inner, found, isMapping, compiledInner, inCondition inside⟩
  · intro leaf far leafAt farAt about
    have isFirst : first = ⟨leaf, far, route.joinTable naming leaf far⟩ :=
      Option.some.inj (linkAt leafAt farAt)
    subst isFirst
    obtain ⟨keys, shape⟩ := ((meets_applied head).mp applied).resolve_left
      about.not_queriesInterior
    obtain ⟨part, translated, rfl⟩ := leafCondition_of_first unique listed shape atLeaf
    exact ⟨part, translated, inCondition (foldlM_followLink_encloses (Or.inl rfl) followed)⟩

/-- The warnings of a fate have its words. -/
theorem Fate.warnings_said (fate : Fate) (key : String) :
    ∀ event ∈ fate.warnings key, event.level = .warn ∧ fate.words = some event.message := by
  cases fate <;> simp [warnings, words, Event.level, Event.message]

/-- A route that compiles accounts for each of its filters, and warns about nothing
else. -/
theorem filters_accounted {condition : Condition} (unique : Mapping.Unique route.filters)
    (compiled : (route.compile naming).outcome = .ok condition) :
    (∀ entry ∈ route.filters,
      route.Accounted naming entry condition (route.compile naming).events) ∧
    ∀ event ∈ (route.compile naming).events,
      ∃ entry ∈ route.filters, event.isAbout entry.1 = true := by
  constructor
  · intro entry listed
    obtain ⟨leaf, head, _⟩ := events_compile compiled
    have inKeys : entry.1 ∈ Mapping.keys route.filters := List.mem_map_of_mem listed
    obtain ⟨fate, meets⟩ := exists_fate head inKeys
    refine ⟨fate, fun _ => meets_iff_eq head unique meets,
      filter_isAbout_events unique compiled inKeys meets, fate.warnings_said entry.1, ?_⟩
    rintro rfl
    exact compiledInto_of_applied unique compiled listed meets
  · intro event told
    exact isAbout_of_mem_events compiled told

end

/-- A route from users to the roles of their role groups. The name of the leaf begins
the name of the domain in between. -/
def groupRoles : DomainRoute where
  path := ["user", "roleGroup", "role"]
  filters := [("roleIdGe", .integer 3), ("roleGroupQuery", .mapping [("valid", .bool true)]),
    ("menuId", .integer 5), ("roleIdLt", .integer 9)]

/-- What the route of role groups compiles into. -/
def groupRolesCondition : Condition :=
  .inSelects "id" [.select "user_id" "j_user_and_roleGroup" [
    .inSelects "roleGroup_id" [
      .select "id" "t_roleGroup" [.compare "valid" .equal (.bool true)],
      .select "roleGroup_id" "j_roleGroup_and_role" [
        .compare "role_id" .greaterOrEqual (.number (.integer 3))]]]]

/-- Of four filters one is applied at the leaf, one on the domain in between, one is superseded and
one meets nothing, and the latter two are warned of. -/
theorem groupRoles_accounted :
    (groupRoles.compile {}).outcome = .ok groupRolesCondition ∧
      (groupRoles.compile {}).events =
        [.routeFilterSuperseded "roleIdLt" "roleIdGe", .routeFilterUnmatched "menuId"] ∧
      ∀ entry ∈ groupRoles.filters,
        groupRoles.Accounted {} entry groupRolesCondition (groupRoles.compile {}).events :=
  have unique : Mapping.Unique groupRoles.filters := by unfold Mapping.Unique; decide
  have compiled : (groupRoles.compile {}).outcome = .ok groupRolesCondition := by rfl
  ⟨compiled, by rfl, (filters_accounted unique compiled).1⟩

end DomainRoute

end DomainSql
