import DomainSql.Directory
import DomainSql.Proofs.Outcomes

/-!
# Files in directories

A file that has been written is read back under its path. Writing a file leaves every folder
a folder, so that every path leads where it led before, and it leaves the other files of the
same folder as they were. A job on a directory goes from operation to operation, each on the
directory that the one before it has left.
-/
namespace DomainSql

namespace Node

/-- A path that leads to a folder starts at one. -/
theorem exists_folder_of_find {names : List String} {node : Node} {inner : List (String × Node)}
    (found : node.find names = .ok (.folder inner)) : ∃ entries, node = .folder entries := by
  cases names with
  | nil => exact ⟨inner, Except.ok.inj found⟩
  | cons name names =>
    cases node with
    | folder entries => exact ⟨entries, rfl⟩
    | file text => simp [find] at found

/-- The first name of a path that leads somewhere is one in the folder. -/
theorem find_cons {name : String} {names : List String} {entries : List (String × Node)}
    {node : Node} : (Node.folder entries).find (name :: names) = .ok node ↔
      ∃ next, entries.lookup name = some next ∧ next.find names = .ok node := by
  rw [find]
  cases entries.lookup name <;> simp

/-- A change under a path is a change of the entry under the path's first name. There need
not be such an entry if this name is the only one. -/
theorem alter_cons {change : Option Node → Except FileError Node} {name : String}
    {names : List String} {top after : Node}
    (altered : alter change (name :: names) top = .ok after) :
    ∃ entries changed, top = .folder entries ∧ after = .folder (Entries.set name changed entries) ∧
      (∀ node, entries.lookup name = some node → alter change names node = .ok changed) ∧
      (entries.lookup name = none → names = [] ∧ change none = .ok changed) := by
  cases top with
  | file text => simp [alter] at altered
  | folder entries =>
    cases names with
    | nil =>
      rw [alter] at altered
      obtain ⟨changed, done, rfl⟩ := bind_pure_eq_ok.mp altered
      refine ⟨entries, changed, rfl, rfl, fun node inside => ?_, fun absent => ?_⟩
      · rw [alter, ← inside, done]
      · exact ⟨rfl, absent ▸ done⟩
    | cons second names =>
      rw [alter] at altered
      · split at altered
        · cases altered
        · rename_i node inside
          obtain ⟨changed, done, rfl⟩ := bind_pure_eq_ok.mp altered
          refine ⟨entries, changed, rfl, rfl, fun other same => ?_, fun absent => ?_⟩
          · rw [inside] at same
            cases same
            exact done
          · rw [inside] at absent
            cases absent
      · exact nofun

/-- A change under a path leaves what is found elsewhere. On the way to the change there are
folders, and their entries change; inside of it, the change itself has to leave what is there. -/
theorem find_alter_iff {change : Option Node → Except FileError Node} {names other : List String}
    {top after node : Node} (altered : alter change names top = .ok after)
    (onWay : ∀ step rest, names = other ++ step :: rest → ∀ entries, node ≠ .folder entries)
    (inside : ∀ before changed rest, change before = .ok changed → other = names ++ rest →
      (changed.find rest = .ok node ↔ ∃ old, before = some old ∧ old.find rest = .ok node)) :
    after.find other = .ok node ↔ top.find other = .ok node := by
  induction names generalizing top after other with
  | nil =>
    rw [alter] at altered
    simpa using inside (some top) after other altered rfl
  | cons name names ih =>
    obtain ⟨entries, changed, rfl, rfl, present, absent⟩ := alter_cons altered
    cases other with
    | nil =>
      have noFolder := onWay name names rfl
      simp [find, (noFolder _).symm]
    | cons step path =>
      rw [find_cons, find_cons]
      by_cases same : step = name
      · subst same
        rw [Entries.lookup_set_self]
        cases found : entries.lookup step with
        | some next =>
          have deeper := ih (present next found)
            (fun further rest way => onWay further rest (by rw [way]; rfl))
            (fun before changed rest done at_ => inside before changed rest done (by rw [at_]; rfl))
          simpa using deeper
        | none =>
          obtain ⟨rfl, done⟩ := absent found
          simpa using inside none changed path done rfl
      · rw [Entries.lookup_set_of_ne same]

/-! ### Writing a file -/

section
variable {text : Option String} {names : List String} {top after : Node}

/-- Where a file is written there was no folder. -/
theorem fileInstead_eq_ok {before : Option Node} {node : Node}
    (written : fileInstead text before = .ok node) :
    node = .file text ∧ ∀ entries, before ≠ some (.folder entries) := by
  unfold fileInstead at written
  split at written
  · cases written
  · rename_i noFolder
    exact ⟨(Except.ok.inj written).symm, noFolder⟩

/-- A file that has been written is there. -/
theorem find_alter_self (altered : top.alter (fileInstead text) names = .ok after) :
    after.find names = .ok (.file text) := by
  induction names generalizing top after with
  | nil =>
    rw [alter] at altered
    rw [(fileInstead_eq_ok altered).1, find]
  | cons name names ih =>
    obtain ⟨entries, changed, rfl, rfl, inside, absent⟩ := alter_cons altered
    refine find_cons.mpr ⟨changed, Entries.lookup_set_self name changed entries, ?_⟩
    cases present : entries.lookup name with
    | some node => exact ih (inside node present)
    | none =>
      obtain ⟨rfl, done⟩ := absent present
      rw [(fileInstead_eq_ok done).1, find]

/-- A folder stays a folder, wherever a file is written. -/
theorem find_alter_folder (altered : top.alter (fileInstead text) names = .ok after)
    {path : List String} {inner : List (String × Node)}
    (found : top.find path = .ok (.folder inner)) :
    ∃ entries, after.find path = .ok (.folder entries) := by
  induction names generalizing top after path inner with
  | nil =>
    rw [alter] at altered
    obtain ⟨entries, rfl⟩ := exists_folder_of_find found
    exact absurd rfl ((fileInstead_eq_ok altered).2 entries)
  | cons name names ih =>
    obtain ⟨entries, changed, rfl, rfl, inside, _⟩ := alter_cons altered
    cases path with
    | nil => exact ⟨_, rfl⟩
    | cons step path =>
      obtain ⟨next, present, found⟩ := find_cons.mp found
      by_cases same : step = name
      · subst same
        obtain ⟨kept, still⟩ := ih (inside next present) found
        exact ⟨kept, find_cons.mpr ⟨changed, Entries.lookup_set_self step changed entries, still⟩⟩
      · rw [← Entries.lookup_set_of_ne same changed entries] at present
        exact ⟨inner, find_cons.mpr ⟨next, present, found⟩⟩

/-- Writing a file leaves what stands beside it. -/
theorem find_alter_beside {folder : List String} {name other : String} (different : other ≠ name)
    (altered : top.alter (fileInstead text) (folder ++ [name]) = .ok after) {node : Node}
    (found : top.find (folder ++ [other]) = .ok node) :
    after.find (folder ++ [other]) = .ok node := by
  refine (find_alter_iff altered (fun step rest way => ?_) fun _ _ rest _ within => ?_).mpr found
  · have lengths := congrArg List.length way
    simp at lengths
  · rw [List.append_assoc, List.append_cancel_left_eq] at within
    exact absurd (List.cons.inj within).1 different

/-- A path leads where it led, wherever a file is written. -/
theorem follow_alter (altered : top.alter (fileInstead text) names = .ok after)
    {passed steps path : List String} (followed : follow top passed steps = .ok path) :
    follow after passed steps = .ok path := by
  induction steps generalizing passed with
  | nil => exact followed
  | cons step steps ih =>
    rw [follow] at followed ⊢
    split at followed
    · rename_i detour
      rw [if_pos detour]
      split at followed
      · rename_i inner found
        obtain ⟨entries, still⟩ := find_alter_folder altered found
        rw [still]
        exact ih followed
      · cases followed
      · cases followed
    · rename_i direct
      rw [if_neg direct]
      exact ih followed

/-- The last name of a path is only added to where the path in front of it leads, if it is
no detour. -/
theorem follow_append {name : String} (plain : ¬ (name = "" ∨ name = "." ∨ name = ".."))
    (top : Node) (passed steps : List String) :
    follow top passed (steps ++ [name]) = (follow top passed steps).map (· ++ [name]) := by
  induction steps generalizing passed with
  | nil => simp [follow, plain, Except.map]
  | cons step steps ih =>
    rw [List.cons_append, follow, follow]
    split
    · split
      · exact ih _
      · rfl
      · rfl
    · exact ih _

end

/-! ### Reading what has been written -/

variable {text : String} {path : String} {top after : Node}

/-- A file is written where its path leads. -/
theorem writePath_eq_ok {text : Option String} :
    top.writePath text path = .ok after ↔
      ∃ names, top.names path = .ok names ∧ top.alter (fileInstead text) names = .ok after :=
  bind_eq_ok

/-- A file is read where its path leads. One without a text has none to read. -/
theorem readPath_eq_ok :
    top.readPath path = .ok text ↔
      ∃ names, top.names path = .ok names ∧ top.find names = .ok (.file (some text)) := by
  simp only [readPath, findPath, bind_eq_ok]
  constructor
  · rintro ⟨node, ⟨names, named, found⟩, read⟩
    refine ⟨names, named, found.trans ?_⟩
    cases node with
    | folder entries => cases read
    | file content =>
      cases content with
      | none => cases read
      | some content =>
        cases read
        rfl
  · rintro ⟨names, named, found⟩
    exact ⟨_, ⟨names, named, found⟩, rfl⟩

/-- What can be read is there. -/
theorem hasPath_of_readPath (read : top.readPath path = .ok text) :
    top.hasPath path = .ok true := by
  obtain ⟨names, named, found⟩ := readPath_eq_ok.mp read
  have there : top.findPath path = .ok (.file (some text)) := bind_eq_ok.mpr ⟨names, named, found⟩
  rw [hasPath, there]

/-- A written file is read back. -/
theorem readPath_of_writePath (written : top.writePath (some text) path = .ok after) :
    after.readPath path = .ok text := by
  obtain ⟨names, named, altered⟩ := writePath_eq_ok.mp written
  exact readPath_eq_ok.mpr ⟨names, follow_alter altered named, find_alter_self altered⟩

end Node

/-- A name without slashes that is no detour. -/
def PlainName (name : String) : Prop :=
  '/' ∉ name.toList ∧ ¬ (name = "" ∨ name = "." ∨ name = "..")

/-- The names of a path that lead on; a blank name and a point do not. -/
def leadingNames (names : List String) : List String :=
  names.filter fun name => name ≠ "" ∧ name ≠ "."

/-- The path of a file in a folder goes through the folder, whatever the file's name. It may
take one more blank name or one less on its way. -/
theorem exists_pathNames_pathIn (folder : String) :
    ∃ steps, leadingNames steps = leadingNames (pathNames folder) ∧
      ∀ name, PlainName name → pathNames (pathIn folder name) = steps ++ [name] := by
  have last (name : String) (plain : PlainName name) :
      (name.toList.splitOn '/').map String.ofList = [name] := by
    rw [List.splitOn_eq_singleton plain.1, List.map_singleton, String.ofList_toList]
  have behind (front : List Char) (name : String) (plain : PlainName name) :
      ((front ++ '/' :: name.toList).splitOn '/').map String.ofList =
        (front.splitOn '/').map String.ofList ++ [name] := by
    rw [List.splitOn_append_cons_self, List.map_append, last name plain]
  by_cases empty : folder.isEmpty = true
  · obtain rfl := String.isEmpty_iff.mp empty
    refine ⟨[], by simp [leadingNames, pathNames], fun name plain => ?_⟩
    rw [pathNames, pathIn, if_pos (Or.inl empty), String.empty_append, last name plain,
      List.nil_append]
  · by_cases closed : folder.toList.getLast? = some '/'
    · obtain ⟨front, shown⟩ := List.getLast?_eq_some_iff.mp closed
      refine ⟨(front.splitOn '/').map String.ofList, ?_, fun name plain => ?_⟩
      · rw [pathNames, shown, List.splitOn_append_cons_self]
        simp [leadingNames]
      · rw [pathNames, pathIn, if_pos (Or.inr closed), String.toList_append, shown,
          List.append_assoc, List.singleton_append, behind front name plain]
    · refine ⟨(folder.toList.splitOn '/').map String.ofList, rfl, fun name plain => ?_⟩
      have shown : (folder ++ "/" ++ name).toList = folder.toList ++ '/' :: name.toList := by simp
      rw [pathNames, pathIn, if_neg (not_or.mpr ⟨empty, closed⟩), shown,
        behind folder.toList name plain]

namespace Node

/-- Writing a file leaves the other files of its folder as they were. -/
theorem readPath_of_writePath_beside {folder name other : String} {content : Option String}
    {text : String} {top after : Node} (plain : PlainName name) (otherPlain : PlainName other)
    (different : other ≠ name)
    (written : top.writePath content (pathIn folder name) = .ok after)
    (read : top.readPath (pathIn folder other) = .ok text) :
    after.readPath (pathIn folder other) = .ok text := by
  obtain ⟨steps, _, split⟩ := exists_pathNames_pathIn folder
  obtain ⟨names, named, altered⟩ := writePath_eq_ok.mp written
  obtain ⟨others, otherNamed, found⟩ := readPath_eq_ok.mp read
  have still : after.names (pathIn folder other) = .ok others := follow_alter altered otherNamed
  rw [Node.names, split name plain, follow_append plain.2, map_eq_ok] at named
  rw [Node.names, split other otherPlain, follow_append otherPlain.2, map_eq_ok] at otherNamed
  obtain ⟨base, followed, rfl⟩ := named
  obtain ⟨same, followedAgain, rfl⟩ := otherNamed
  obtain rfl : base = same := Except.ok.inj (followed.symm.trans followedAgain)
  exact readPath_eq_ok.mpr ⟨_, still, find_alter_beside different altered found⟩

end Node

/-! ### Jobs on directories -/

/-- How a job on a directory ends: its outcome, the events told so far, and the directory
that it leaves. -/
def Job.ending {ε α : Type} (job : Job (StateM Node) ε α) (events : List Event) (top : Node) :
    (Except ε α × List Event) × Node :=
  (job.run.run events).run top

section
variable {ε δ α β : Type} {job : Job (StateM Node) ε α} {next : α → Job (StateM Node) ε β}
  {events told : List Event} {top after : Node}

/-- A job of two parts goes on with the result, the events and the directory of the first. -/
theorem Job.ending_bind : (job >>= next).ending events top =
    match job.ending events top with
    | ((.ok a, told), after) => (next a).ending told after
    | ((.error e, told), after) => ((.error e, told), after) := by
  simp only [Job.ending, ExceptT.run_bind, StateT.run_bind]
  rcases (job.run.run events).run top with ⟨⟨_ | _, _⟩, _⟩ <;> rfl

/-- A job of two parts succeeds when both do, one after the other. -/
theorem Job.ending_bind_eq_ok {b : β} : (job >>= next).ending events top = ((.ok b, told), after) ↔
    ∃ a between node, job.ending events top = ((.ok a, between), node) ∧
      (next a).ending between node = ((.ok b, told), after) := by
  rw [Job.ending_bind]
  rcases job.ending events top with ⟨⟨_ | a, between⟩, node⟩
  · constructor
    · exact nofun
    · rintro ⟨_, _, _, ⟨⟩, _⟩
  · constructor
    · exact fun rest => ⟨a, between, node, rfl, rest⟩
    · rintro ⟨_, _, _, ⟨⟩, rest⟩
      exact rest

/-- An operation on the directory tells nothing. -/
theorem Job.ending_operation (wrap : FileError → ε) (outcome : StateM Node (Except FileError α)) :
    (Job.operation wrap outcome).ending events top =
      (((outcome top).1.mapError wrap, events), (outcome top).2) := by
  have lifted : Job.ending (liftM (liftM outcome :
      StateT (List Event) (StateM Node) (Except FileError α)) :
      Job (StateM Node) ε (Except FileError α)) events top =
        ((.ok (outcome top).1, events), (outcome top).2) := rfl
  rw [Job.operation, Job.ending_bind, lifted]
  cases (outcome top).1 <;> rfl

/-- An operation that succeeds has done its work on the directory and told nothing. -/
theorem Job.ending_operation_eq_ok {wrap : FileError → ε}
    {outcome : StateM Node (Except FileError α)} {a : α} :
    (Job.operation wrap outcome).ending events top = ((.ok a, told), after) ↔
      outcome top = (.ok a, after) ∧ told = events := by
  rw [Job.ending_operation]
  rcases outcome top with ⟨_ | _, _⟩
  · constructor
    · exact nofun
    · rintro ⟨⟨⟩, _⟩
  · constructor
    · rintro ⟨⟩
      exact ⟨rfl, rfl⟩
    · rintro ⟨⟨⟩, rfl⟩
      rfl

/-- A part of a job ends as it does alone, up to the error. -/
theorem Job.ending_part (wrap : ε → δ) : (job.part wrap).ending events top =
    (((job.ending events top).1.1.mapError wrap, (job.ending events top).1.2),
      (job.ending events top).2) := rfl

/-- Traced work does nothing to the directory. -/
theorem Job.ending_traced (wrap : ε → δ) (work : Traced ε α) :
    (Job.traced wrap work : Job (StateM Node) δ α).ending events top =
      ((work.outcome.mapError wrap, events ++ work.events), top) := by
  have told : Job.ending (modify (· ++ work.events) : Job (StateM Node) δ PUnit) events top =
      ((.ok ⟨⟩, events ++ work.events), top) := rfl
  rw [Job.traced, Job.ending_bind, told]
  cases work.outcome <;> rfl

/-- A job leaves every directory as it is. -/
def Job.OnlyReads (job : Job (StateM Node) ε α) : Prop :=
  ∀ events top, (job.ending events top).2 = top

/-- Jobs that only read may follow each other. -/
theorem Job.OnlyReads.bind (first : job.OnlyReads) (second : ∀ a, (next a).OnlyReads) :
    (job >>= next).OnlyReads := by
  intro events top
  have same := first events top
  rw [Job.ending_bind]
  rcases ended : job.ending events top with ⟨⟨e | a, told⟩, after⟩
  · rw [ended] at same
    exact same
  · rw [ended] at same
    exact (second a told after).trans same

/-- An operation that leaves every directory as it is only reads. -/
theorem Job.OnlyReads.operation {outcome : StateM Node (Except FileError α)}
    (reads : ∀ top, (outcome top).2 = top) (wrap : FileError → ε) :
    (Job.operation wrap outcome).OnlyReads := by
  intro events top
  rw [Job.ending_operation]
  exact reads top

/-- Another wording of errors changes no directory. -/
theorem Job.OnlyReads.part (reads : job.OnlyReads) (wrap : ε → δ) :
    (job.part wrap).OnlyReads := by
  intro events top
  rw [Job.ending_part]
  exact reads events top

/-- A change that succeeds leaves the changed directory behind. -/
theorem changeDirectory_eq_ok {change : Node → Except FileError Node} :
    changeDirectory change top = (.ok (), after) ↔ change top = .ok after := by
  rw [changeDirectory]
  cases change top with
  | error e => exact ⟨nofun, nofun⟩
  | ok changed =>
    constructor
    · rintro ⟨⟩
      rfl
    · rintro ⟨⟩
      rfl

end

end DomainSql
