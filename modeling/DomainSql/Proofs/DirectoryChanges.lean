import DomainSql.Proofs.Directories
import Mathlib.Data.List.DropRight
import Mathlib.Logic.Relation

/-!
# What changes to a directory leave alone

Creating a folder changes no file, and writing a file changes no other one. Where neither a
change nor the way to it lies, everything stays.

A path that never leads up leads to the same place in every directory, and the folders that
are created for it lie on the way there. So what such a path names inside of the folder is
there afterwards only if it was there before.
-/
namespace DomainSql

namespace Node

variable {top after : Node}

/-- Two directories have the same files, apart from some places. -/
def SameFiles (apart : List (List String)) (top after : Node) : Prop :=
  ∀ names ∉ apart, ∀ text, after.find names = .ok (.file text) ↔ top.find names = .ok (.file text)

/-- Where nothing has been done the files are the same. -/
theorem SameFiles.refl (apart : List (List String)) (top : Node) : SameFiles apart top top :=
  fun _ _ _ => Iff.rfl

/-- Two changes that spare the same places spare them together. -/
theorem SameFiles.trans {apart : List (List String)} {between : Node}
    (first : SameFiles apart top between) (second : SameFiles apart between after) :
    SameFiles apart top after :=
  fun names outside text => (second names outside text).trans (first names outside text)

/-! ### One change -/

/-- A created folder is a folder, and an empty one where there was none. -/
theorem folderInstead_eq_ok {before : Option Node} {node : Node}
    (created : folderInstead before = .ok node) :
    before = none ∧ node = empty ∨ ∃ entries, before = some node ∧ node = .folder entries := by
  unfold folderInstead at created
  split at created
  · exact .inl ⟨rfl, (Except.ok.inj created).symm⟩
  · cases created
    exact .inr ⟨_, rfl, rfl⟩
  · cases created

/-- A folder is created where its path leads, if what stands there allows it. -/
theorem createPath_eq_ok {path : String} :
    top.createPath path = .ok after ↔
      ∃ names, top.folderNames path = .ok names ∧ top.alter folderInstead names = .ok after :=
  bind_eq_ok

/-- Creating a folder changes no file. -/
theorem sameFiles_of_createPath {path : String} (created : top.createPath path = .ok after) :
    SameFiles [] top after := by
  obtain ⟨names, _, altered⟩ := createPath_eq_ok.mp created
  intro other _ text
  refine find_alter_iff altered (fun _ _ _ _ => nofun) fun before changed rest done _ => ?_
  rcases folderInstead_eq_ok done with ⟨rfl, rfl⟩ | ⟨entries, rfl, rfl⟩
  · cases rest <;> simp [empty, find]
  · simp

/-- Writing a file changes no other one. -/
theorem sameFiles_of_writePath {text : Option String} {path : String} {names : List String}
    (named : top.names path = .ok names) (written : top.writePath text path = .ok after) :
    SameFiles [names] top after := by
  obtain ⟨same, namedAgain, altered⟩ := writePath_eq_ok.mp written
  obtain rfl : names = same := Except.ok.inj (named.symm.trans namedAgain)
  intro other outside content
  refine find_alter_iff altered (fun _ _ _ _ => nofun) fun before changed rest done within => ?_
  obtain ⟨rfl, noFolder⟩ := fileInstead_eq_ok done
  cases rest with
  | nil => exact absurd (by simpa using within) (List.mem_singleton.not.mp outside)
  | cons step rest =>
    refine iff_of_false (by simp [find]) ?_
    rintro ⟨old, rfl, found⟩
    cases old with
    | folder entries => exact noFolder entries rfl
    | file old => simp [find] at found

/-- Creating a folder leaves what is not on the way to it. -/
theorem find_alter_folderInstead {names other : List String} {node : Node}
    (altered : top.alter folderInstead names = .ok after) (off : ¬ other <+: names) :
    after.find other = .ok node ↔ top.find other = .ok node := by
  refine find_alter_iff altered (fun step rest way => ?_) fun before changed rest done within => ?_
  · exact absurd ⟨step :: rest, way.symm⟩ off
  · rcases folderInstead_eq_ok done with ⟨rfl, rfl⟩ | ⟨entries, rfl, rfl⟩
    · cases rest with
      | nil => exact absurd (by simp [within]) off
      | cons step rest => simp [empty, find]
    · simp

end Node

/-! ### Paths that never lead up -/

section
variable {names steps : List String} {path folder name step : String}

/-- A path leads on by all of its names but blank ones and points. -/
theorem mem_leadingNames : name ∈ leadingNames names ↔ name ∈ names ∧ name ≠ "" ∧ name ≠ "." := by
  simp [leadingNames]

/-- A path leads up exactly when the names do that it leads on by. -/
theorem up_mem_leadingNames : ".." ∈ leadingNames names ↔ ".." ∈ names := by
  simp [mem_leadingNames]

/-- What is put behind a path leads on from where the path leads to. -/
theorem leadingNames_append (front back : List String) :
    leadingNames (front ++ back) = leadingNames front ++ leadingNames back :=
  List.filter_append front back

/-- A name that is no detour leads one step further. -/
theorem leadingNames_direct (direct : ¬ (step = "" ∨ step = "." ∨ step = "..")) :
    leadingNames (step :: steps) = step :: leadingNames steps :=
  List.filter_cons_of_pos (by simpa using not_or.mp fun detour => direct (by tauto))

/-- A blank name or a point leads nowhere else. -/
theorem leadingNames_detour (detour : step = "" ∨ step = "." ∨ step = "..") (notUp : step ≠ "..") :
    leadingNames (step :: steps) = leadingNames steps := by
  refine List.filter_cons_of_neg ?_
  rcases detour with rfl | rfl | up
  · decide
  · decide
  · exact absurd up notUp

/-- The parts of a text that is cut at a separator are free of it. -/
theorem not_mem_of_mem_splitOn {separator : Char} {text part : List Char}
    (inside : part ∈ text.splitOn separator) : separator ∉ part := by
  induction text generalizing part with
  | nil =>
    obtain rfl : part = [] := by simpa using inside
    exact List.not_mem_nil
  | cons c rest ih =>
    rw [List.splitOn_cons_eq_if_modifyHead] at inside
    split at inside
    · rcases List.mem_cons.mp inside with rfl | behind
      · exact List.not_mem_nil
      · exact ih behind
    · rename_i other
      obtain ⟨first, others, parts⟩ :=
        List.exists_cons_of_ne_nil (List.splitOn_ne_nil separator rest)
      rw [parts, List.modifyHead_cons] at inside
      rw [parts] at ih
      rcases List.mem_cons.mp inside with rfl | behind
      · have apart : separator ≠ c := fun same => other (by simp [same])
        exact List.not_mem_cons_of_ne_of_not_mem apart (ih List.mem_cons_self)
      · exact ih (List.mem_cons_of_mem _ behind)

/-- The names that a path leads on by are plain, if it does not lead up. -/
theorem plainName_of_mem_leadingNames (noUp : ".." ∉ pathNames path)
    (inside : name ∈ leadingNames (pathNames path)) : PlainName name := by
  obtain ⟨named, notBlank, notPoint⟩ := mem_leadingNames.mp inside
  obtain ⟨part, cut, rfl⟩ := List.mem_map.mp named
  refine ⟨by simpa using not_mem_of_mem_splitOn cut, ?_⟩
  rintro (blank | point | up)
  · exact notBlank blank
  · exact notPoint point
  · exact noUp (up ▸ named)

/-- The path of a file in a folder leads to the folder and one step further. -/
theorem leadingNames_pathIn (plain : PlainName name) :
    leadingNames (pathNames (pathIn folder name)) = leadingNames (pathNames folder) ++ [name] := by
  obtain ⟨steps, same, split⟩ := exists_pathNames_pathIn folder
  rw [split name plain, leadingNames_append, same, leadingNames_direct plain.2]
  rfl

/-- Every folder on a way leads on by names of the way, from where it starts. -/
theorem leadingNames_prefix_of_mem_pathsBeforeLast {start : String}
    (plain : ∀ name ∈ names, PlainName name) (onWay : path ∈ pathsBeforeLast start names) :
    leadingNames (pathNames path) <+: leadingNames (pathNames start) ++ names := by
  fun_induction pathsBeforeLast start names with
  | case1 => cases onWay
  | case2 => cases onWay
  | case3 start first others _ ih =>
    obtain ⟨ofFirst, ofOthers⟩ := List.forall_mem_cons.mp plain
    have further : leadingNames (pathNames (pathIn start first)) =
        leadingNames (pathNames start) ++ [first] := leadingNames_pathIn ofFirst
    rcases List.mem_append.mp onWay with deeper | here
    · have ahead := ih ofOthers deeper
      rwa [further, List.append_assoc, List.singleton_append] at ahead
    · rw [List.mem_singleton.mp here, further]
      exact ⟨others, by simp⟩

/-- The folders that are created for a path lie on the way that it leads on by. -/
theorem leadingNames_prefix (noUp : ".." ∉ pathNames folder)
    (onWay : path ∈ folder :: foldersOnWay folder) :
    leadingNames (pathNames path) <+: leadingNames (pathNames folder) := by
  rcases List.mem_cons.mp onWay with rfl | outer
  · exact List.prefix_rfl
  · have start : leadingNames (pathNames (if startsAtTop folder then "/" else "")) = [] := by
      split <;> rfl
    have ahead := leadingNames_prefix_of_mem_pathsBeforeLast
      (fun _ => plainName_of_mem_leadingNames noUp) outer
    rwa [start, List.nil_append] at ahead

namespace Node

variable {top after node : Node} {passed : List String}

/-- A path that does not lead up leads to where its names say. -/
theorem eq_of_follow (noUp : ".." ∉ steps) (followed : follow top passed steps = .ok names) :
    names = passed.reverse ++ leadingNames steps := by
  induction steps generalizing passed with
  | nil => simpa [follow, leadingNames] using followed.symm
  | cons step steps ih =>
    have noUpBehind := List.not_mem_of_not_mem_cons noUp
    have notUp : step ≠ ".." := fun up => noUp (by simp [up])
    rw [follow] at followed
    split at followed
    · rename_i detour
      rw [leadingNames_detour detour notUp]
      split at followed
      · exact ih noUpBehind followed
      · cases followed
      · cases followed
    · rename_i direct
      rw [leadingNames_direct direct, ih noUpBehind followed]
      simp

/-- In front of what is found there are folders. -/
theorem exists_folder_on_way {front rest : List String} (more : rest ≠ [])
    (found : top.find (front ++ rest) = .ok node) :
    ∃ entries, top.find front = .ok (.folder entries) := by
  induction front generalizing top with
  | nil =>
    cases top with
    | folder entries => exact ⟨entries, rfl⟩
    | file text =>
      obtain ⟨step, further, rfl⟩ := List.exists_cons_of_ne_nil more
      simp [find] at found
  | cons step front ih =>
    cases top with
    | file text => simp [find] at found
    | folder entries =>
      obtain ⟨next, present, found⟩ := find_cons.mp found
      obtain ⟨inner, there⟩ := ih found
      exact ⟨inner, find_cons.mpr ⟨next, present, there⟩⟩

/-- A path that does not lead up can be followed if something is found behind it. -/
theorem follow_of_find {rest : List String} (noUp : ".." ∉ steps) (more : rest ≠ [])
    (found : top.find (passed.reverse ++ leadingNames steps ++ rest) = .ok node) :
    follow top passed steps = .ok (passed.reverse ++ leadingNames steps) := by
  induction steps generalizing passed with
  | nil => simp [follow, leadingNames]
  | cons step steps ih =>
    have noUpBehind := List.not_mem_of_not_mem_cons noUp
    have notUp : step ≠ ".." := fun up => noUp (by simp [up])
    rw [follow]
    by_cases detour : step = "" ∨ step = "." ∨ step = ".."
    · rw [leadingNames_detour detour notUp] at found ⊢
      have behind : leadingNames steps ++ rest ≠ [] := by simp [more]
      obtain ⟨entries, here⟩ := exists_folder_on_way behind (List.append_assoc .. ▸ found)
      simp only [if_pos detour, here, if_neg notUp]
      exact ih noUpBehind found
    · rw [if_neg detour]
      rw [leadingNames_direct detour] at found ⊢
      have ahead := @ih (step :: passed) noUpBehind (by simpa using found)
      simpa using ahead

/-- A folder is created where the names of its path say. Blank names at the end of the path
are left out, and they lead nowhere anyway. -/
theorem eq_of_folderNames (noUp : ".." ∉ pathNames path)
    (named : top.folderNames path = .ok names) : names = leadingNames (pathNames path) := by
  set kept := (pathNames path).rdropWhile (·.isEmpty)
  set blanks := (pathNames path).rtakeWhile (·.isEmpty)
  have split : kept ++ blanks = pathNames path := List.rdropWhile_append_rtakeWhile ..
  have blank : leadingNames blanks = [] := by
    refine List.filter_eq_nil_iff.mpr fun name inside => ?_
    simp [String.isEmpty_iff.mp (List.mem_rtakeWhile_imp inside)]
  have noUpKept : ".." ∉ kept := fun up => noUp (split ▸ List.mem_append_left _ up)
  have there : names = [].reverse ++ leadingNames kept := eq_of_follow noUpKept named
  rw [there, ← split, leadingNames_append, blank]
  simp

/-- Something is there under a path when the path leads to a place and something is found in it. -/
theorem hasPath_eq_true :
    top.hasPath path = .ok true ↔ ∃ names node, top.names path = .ok names ∧
      top.find names = .ok node := by
  have found : (∃ node, top.findPath path = .ok node) ↔
      ∃ names node, top.names path = .ok names ∧ top.find names = .ok node := by
    simp only [findPath, bind_eq_ok]
    exact exists_comm
  rw [← found, hasPath]
  split <;> simp_all

/-- Something is there under the path of a file in a folder if it is found where the names of
the path say. -/
theorem hasPath_pathIn_iff (noUp : ".." ∉ pathNames folder) (plain : PlainName name) :
    top.hasPath (pathIn folder name) = .ok true ↔
      ∃ node, top.find (leadingNames (pathNames folder) ++ [name]) = .ok node := by
  obtain ⟨steps, same, split⟩ := exists_pathNames_pathIn folder
  have noUpSteps : ".." ∉ steps := by rwa [← up_mem_leadingNames, same, up_mem_leadingNames]
  rw [hasPath_eq_true, Node.names, split name plain, follow_append plain.2, ← same]
  constructor
  · rintro ⟨names, node, followed, found⟩
    obtain ⟨base, base_followed, rfl⟩ := map_eq_ok.mp followed
    rw [eq_of_follow noUpSteps base_followed] at found
    exact ⟨node, found⟩
  · rintro ⟨node, found⟩
    have followed := @follow_of_find _ _ _ [] _ noUpSteps (List.cons_ne_nil name []) found
    exact ⟨_, node, map_eq_ok.mpr ⟨_, followed, rfl⟩, found⟩

/-! ### Folders that are created one after the other -/

/-- One of some folders is created. -/
def Creates (paths : List String) (top after : Node) : Prop :=
  ∃ path ∈ paths, top.createPath path = .ok after

/-- Some of some folders are created, one after the other. -/
def FoldersCreated (paths : List String) : Node → Node → Prop :=
  Relation.ReflTransGen (Creates paths)

/-- No file is changed when folders are created. -/
theorem FoldersCreated.sameFiles {paths : List String} (created : FoldersCreated paths top after) :
    SameFiles [] top after := by
  induction created with
  | refl => exact .refl [] top
  | tail _ last ih =>
    obtain ⟨path, _, made⟩ := last
    exact ih.trans (sameFiles_of_createPath made)

/-- The folders that are created for a folder lie in front of what it holds. So something is
there under the path of a file in the folder only if it was there before. -/
theorem FoldersCreated.hasPath_iff (noUp : ".." ∉ pathNames folder) (plain : PlainName name)
    (created : FoldersCreated (folder :: foldersOnWay folder) top after) :
    after.hasPath (pathIn folder name) = .ok true ↔
      top.hasPath (pathIn folder name) = .ok true := by
  induction created with
  | refl => exact Iff.rfl
  | tail _ last ih =>
    obtain ⟨path, onWay, made⟩ := last
    obtain ⟨names, named, altered⟩ := createPath_eq_ok.mp made
    have before := leadingNames_prefix noUp onWay
    have noUpToo : ".." ∉ pathNames path := fun up =>
      noUp (up_mem_leadingNames.mp (before.subset (up_mem_leadingNames.mpr up)))
    obtain rfl := eq_of_folderNames noUpToo named
    -- what is created ends with the folder at the latest, one name in front of the file
    have off : ¬ leadingNames (pathNames folder) ++ [name] <+: leadingNames (pathNames path) := by
      intro ahead
      have longer := (ahead.trans before).length_le
      rw [List.length_append, List.length_singleton] at longer
      omega
    rw [← ih, hasPath_pathIn_iff noUp plain, hasPath_pathIn_iff noUp plain]
    exact exists_congr fun node => find_alter_folderInstead altered off

end Node

end

end DomainSql
