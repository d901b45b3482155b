/-!
# Entries under names

A mapping of values and a folder of files are lists of entries, each under a name of its own.
Setting an entry keeps the order of the list and its names single: an entry that is there is
replaced in its place, and a new one is added at the end.
-/
namespace DomainSql.Entries

variable {α : Type}

/-- Set the entry under a name. -/
def set (name : String) (value : α) : List (String × α) → List (String × α)
  | [] => [(name, value)]
  | (other, old) :: rest =>
    if other = name then (other, value) :: rest else (other, old) :: set name value rest

/-- A new name is added at the end. -/
theorem set_of_absent {name : String} {entries : List (String × α)}
    (absent : name ∉ entries.map Prod.fst) (value : α) :
    set name value entries = entries ++ [(name, value)] := by
  induction entries with
  | nil => rfl
  | cons entry rest ih =>
    obtain ⟨other, old⟩ := entry
    simp only [List.map_cons, List.mem_cons, not_or] at absent
    rw [set, if_neg (fun same => absent.1 same.symm), ih absent.2, List.cons_append]

/-- A name that is there keeps its place, and so do the others. -/
theorem names_set_of_mem {name : String} {entries : List (String × α)}
    (present : name ∈ entries.map Prod.fst) (value : α) :
    (set name value entries).map Prod.fst = entries.map Prod.fst := by
  induction entries with
  | nil => cases present
  | cons entry rest ih =>
    obtain ⟨other, old⟩ := entry
    by_cases same : other = name
    · rw [set, if_pos same, List.map_cons, List.map_cons]
    · have behind : name ∈ rest.map Prod.fst :=
        (List.mem_cons.mp present).resolve_left fun here => same here.symm
      rw [set, if_neg same, List.map_cons, List.map_cons, ih behind]

/-- Setting an entry keeps every name single. -/
theorem nodup_names_set {entries : List (String × α)} (single : (entries.map Prod.fst).Nodup)
    (name : String) (value : α) : ((set name value entries).map Prod.fst).Nodup := by
  by_cases present : name ∈ entries.map Prod.fst
  · rwa [names_set_of_mem present]
  · rw [set_of_absent present, List.map_append, List.nodup_append]
    refine ⟨single, by simp, fun a inside b last same => present ?_⟩
    obtain rfl : b = name := by simpa using last
    exact same ▸ inside

/-- Setting an entry brings in no other value than its own. -/
theorem mem_of_mem_set {name : String} {value : α} {entries : List (String × α)}
    {entry : String × α} (inside : entry ∈ set name value entries) :
    entry ∈ entries ∨ entry.2 = value := by
  induction entries with
  | nil => exact .inr (congrArg Prod.snd (List.mem_singleton.mp inside))
  | cons first rest ih =>
    obtain ⟨other, old⟩ := first
    rw [set] at inside
    split at inside
    · rcases List.mem_cons.mp inside with rfl | behind
      · exact .inr rfl
      · exact .inl (List.mem_cons_of_mem _ behind)
    · rcases List.mem_cons.mp inside with rfl | behind
      · exact .inl List.mem_cons_self
      · exact (ih behind).imp_left (List.mem_cons_of_mem _)

/-- What has been set under a name is found there. -/
theorem lookup_set_self (name : String) (value : α) (entries : List (String × α)) :
    (set name value entries).lookup name = some value := by
  induction entries with
  | nil => simp [set]
  | cons entry rest ih =>
    obtain ⟨other, old⟩ := entry
    by_cases same : other = name
    · simp [set, same]
    · have unequal : (name == other) = false := by simpa using fun h : name = other => same h.symm
      simpa [set, same, List.lookup_cons, unequal] using ih

/-- What stands under the other names is found as before. -/
theorem lookup_set_of_ne {name other : String} (different : other ≠ name) (value : α)
    (entries : List (String × α)) :
    (set name value entries).lookup other = entries.lookup other := by
  have notNew : (other == name) = false := by simpa using different
  induction entries with
  | nil => simp [set, List.lookup_cons, notNew]
  | cons entry rest ih =>
    obtain ⟨present, old⟩ := entry
    by_cases same : present = name
    · simp [set, same, List.lookup_cons, notNew]
    · by_cases found : other = present
      · simp [set, same, found]
      · have notHere : (other == present) = false := by simpa using found
        simpa [set, same, List.lookup_cons, notHere] using ih

end DomainSql.Entries
