import DomainSql.Proofs.CommandRuns
import DomainSql.Proofs.DirectoryChanges

/-!
# Failures while the first configuration is written

A folder is set up in four operations: a look for a configuration, the creation of the folder,
and one write for each of the two files. Any of them may fail, at any time and for any reason,
and the run ends there. Nothing is taken back.

As long as no write has failed, no file is created or changed, and the run can be repeated. The
configuration is written in front of the schema. So a schema that cannot be written leaves a
whole configuration behind, and this is what every later run refuses to replace.
-/
namespace DomainSql

open Node

/-! ### Storage whose operations may fail -/

/-- Storage on directories whose operations may fail. One that succeeds has done what it says,
and one that fails has done a part of it at most. -/
structure Storage.Honest (storage : Storage (StateM Node)) : Prop where
  /-- A look changes nothing. -/
  looks : ∀ path top, (storage.pathExists path top).2 = top
  /-- What a look tells is so. -/
  sees : ∀ path top there, (storage.pathExists path top).1 = .ok there →
    top.hasPath path = .ok there
  /-- Only the folder and those on the way to it are created. -/
  creates : ∀ path top,
    FoldersCreated (path :: foldersOnWay path) top (storage.createFolders path top).2
  /-- What has been written is in the file. -/
  writes : ∀ path text top after, storage.writeText path text top = (.ok (), after) →
    top.writePath (some text) path = .ok after
  /-- A write that fails has not opened the file, or has left anything in it. -/
  breaks : ∀ path text top e after, storage.writeText path text top = (.error e, after) →
    after = top ∨ ∃ left, top.writePath left path = .ok after

/-- A look leaves the directory and tells what is there. -/
theorem Storage.Honest.looked {storage : Storage (StateM Node)} (honest : storage.Honest)
    {path : String} {there : Bool} {top after : Node}
    (looked : storage.pathExists path top = (.ok there, after)) :
    after = top ∧ top.hasPath path = .ok there := by
  have same := honest.looks path top
  have seen := honest.sees path top there
  rw [looked] at same seen
  exact ⟨same, seen rfl⟩

/-- However the creation of folders ends, it has created no others than the folder and those on the
way to it. -/
theorem Storage.Honest.foldersCreated {storage : Storage (StateM Node)} (honest : storage.Honest)
    {path : String} {outcome : Except FileError Unit} {top after : Node}
    (made : storage.createFolders path top = (outcome, after)) :
    FoldersCreated (path :: foldersOnWay path) top after := by
  have steps := honest.creates path top
  rwa [made] at steps

/-- The operations that change or look at one place. -/
inductive Access where
  | look (path : String)
  | createFolder (path : String)
  | write (path : String)

/-- An operation that may be told to fail, and then does nothing. -/
def failing {α : Type} (fault : Option FileError) (operation : StateM Node (Except FileError α)) :
    StateM Node (Except FileError α) := fun top =>
  match fault with
  | some e => (.error e, top)
  | none => operation top

/-- A directory on which some operations are told to fail. -/
def failingStorage (fault : Access → Option FileError) : Storage (StateM Node) where
  pathExists path := failing (fault (.look path)) (directoryStorage.pathExists path)
  readText := directoryStorage.readText
  createFolders := createAll fun path =>
    failing (fault (.createFolder path)) (changeDirectory (createPath path))
  writeText path text := failing (fault (.write path)) (directoryStorage.writeText path text)

/-- A directory without faults. -/
theorem failingStorage_none : failingStorage (fun _ => none) = directoryStorage := rfl

/-- Creating a folder along a way starts with the folder itself, and with the next one on the
way if that is missing. -/
theorem createAlong_cons (create : String → StateM Node (Except FileError Unit))
    (path outer : String) (further : List String) (top : Node) :
    createAlong create path (outer :: further) top =
      match create path top with
      | (.error .notFound, between) =>
        match createAlong create outer further between with
        | (.ok (), there) => create path there
        | (.error e, left) => (.error e, left)
      | (outcome, after) => (outcome, after) := by
  rw [createAlong]
  simp only [bind, StateT.bind]
  rcases create path top with ⟨e | done, between⟩
  · cases e with
    | notFound =>
      simp only [StateT.bind]
      rcases createAlong create outer further between with ⟨e | done, after⟩ <;> rfl
    | _ => rfl
  · rfl

/-- Folders that are created along a way are created one by one. -/
theorem foldersCreated_createAlong {create : String → StateM Node (Except FileError Unit)}
    {paths : List String}
    (single : ∀ path ∈ paths, ∀ top, FoldersCreated paths top (create path top).2)
    {path : String} {further : List String} (onWay : path :: further ⊆ paths) (top : Node) :
    FoldersCreated paths top (createAlong create path further top).2 := by
  have ofPath := single path (onWay List.mem_cons_self)
  induction further generalizing path top with
  | nil => exact ofPath top
  | cons outer further ih =>
    have ofOuter := single outer (onWay (by simp))
    have made := ofPath top
    rw [createAlong_cons]
    rcases ended : create path top with ⟨outcome, between⟩
    rw [ended] at made
    split
    · rename_i between same
      cases same
      have along := ih (fun _ inside => onWay (by simp_all)) between ofOuter
      split
      · rename_i there ended
        rw [ended] at along
        exact (made.trans along).trans (ofPath there)
      · rename_i e left ended
        rw [ended] at along
        exact made.trans along
    · rename_i same
      cases same
      exact made

/-- An operation is done or fails. -/
theorem failing_eq {α : Type} (fault : Option FileError)
    (operation : StateM Node (Except FileError α)) (top : Node) :
    failing fault operation top = operation top ∨
      ∃ e, failing fault operation top = (.error e, top) := by
  cases fault with
  | none => exact .inl rfl
  | some e => exact .inr ⟨e, rfl⟩

/-- A change that fails has changed nothing. -/
theorem changeDirectory_eq_error {change : Node → Except FileError Node} {top after : Node}
    {e : FileError} (failed : changeDirectory change top = (.error e, after)) : after = top := by
  unfold changeDirectory at failed
  split at failed
  · cases failed
  · cases failed
    rfl

/-- Storage is honest whichever of its operations fail. -/
theorem failingStorage_honest (fault : Access → Option FileError) :
    (failingStorage fault).Honest where
  looks path top := by
    change (failing _ (directoryStorage.pathExists path) top).2 = top
    rcases failing_eq (fault (.look path)) (directoryStorage.pathExists path) top with
      done | ⟨e, failed⟩
    · rw [done]
      rfl
    · rw [failed]
  sees path top there seen := by
    change (failing _ (directoryStorage.pathExists path) top).1 = .ok there at seen
    rcases failing_eq (fault (.look path)) (directoryStorage.pathExists path) top with
      done | ⟨e, failed⟩
    · rw [done] at seen
      exact seen
    · rw [failed] at seen
      cases seen
  creates path top := by
    refine foldersCreated_createAlong (fun folder inside top => ?_) (List.Subset.refl _) top
    rcases failing_eq (fault (.createFolder folder)) (changeDirectory (createPath folder)) top with
      done | ⟨e, failed⟩
    · rw [done]
      rcases ended : changeDirectory (createPath folder) top with ⟨e | ⟨⟩, after⟩
      · rw [changeDirectory_eq_error ended]
        exact .refl
      · exact .single ⟨folder, inside, changeDirectory_eq_ok.mp ended⟩
    · rw [failed]
      exact .refl
  writes path text top after written := by
    change failing _ (changeDirectory (writePath (some text) path)) top = _ at written
    rcases failing_eq (fault (.write path)) (changeDirectory (writePath (some text) path)) top with
      done | ⟨e, failed⟩
    · rw [done] at written
      exact changeDirectory_eq_ok.mp written
    · rw [failed] at written
      cases written
  breaks path text top e after broken := by
    change failing _ (changeDirectory (writePath (some text) path)) top = _ at broken
    rcases failing_eq (fault (.write path)) (changeDirectory (writePath (some text) path)) top with
      done | ⟨e, failed⟩
    · rw [done] at broken
      exact .inl (changeDirectory_eq_error broken)
    · rw [failed] at broken
      cases broken
      exact .inl rfl

/-- Storage on a directory that never fails is honest. -/
theorem directoryStorage_honest : directoryStorage.Honest :=
  failingStorage_none ▸ failingStorage_honest fun _ => none

namespace CommandLine

open DomainSql.Configuration

/-! ### Files of a folder -/

/-- Nothing but some files of a folder has been created or changed. -/
def OnlyTouches (folder : String) (files : List String) (top after : Node) : Prop :=
  ∀ names, (∀ file ∈ files, after.names (pathIn folder file) ≠ .ok names) →
    ∀ text, after.find names = .ok (.file text) ↔ top.find names = .ok (.file text)

/-- Both files of a configuration are there, with all of their text. -/
structure Written (folder : String) (after : Node) : Prop where
  configuration : after.readPath (pathIn folder fileName) = .ok (fileText initial.toValue)
  schema : after.readPath (pathIn folder schemaFileName) = .ok (fileText schemaDocument)

section
variable {folder : String} {files : List String} {top between after : Node}

/-- No file is touched when folders are created. -/
theorem OnlyTouches.of_created {paths : List String} (created : FoldersCreated paths top after) :
    OnlyTouches folder [] top after :=
  fun names _ => created.sameFiles names List.not_mem_nil

/-- A write touches its own file, too. -/
theorem OnlyTouches.write (touched : OnlyTouches folder files top between) {file : String}
    {text : Option String} (written : between.writePath text (pathIn folder file) = .ok after) :
    OnlyTouches folder (file :: files) top after := by
  obtain ⟨place, named, altered⟩ := writePath_eq_ok.mp written
  intro names outside text
  obtain ⟨notFile, ofFiles⟩ := List.forall_mem_cons.mp outside
  have elsewhere : names ∉ [place] := by
    rw [List.mem_singleton]
    rintro rfl
    exact notFile (follow_alter altered named)
  have before := touched names fun other inside led =>
    ofFiles other inside (follow_alter altered led)
  exact (sameFiles_of_writePath named written names elsewhere text).trans (before text)

/-- A write that fails touches its own file at most. -/
theorem OnlyTouches.broken {storage : Storage (StateM Node)} (honest : storage.Honest)
    (touched : OnlyTouches folder files top between) {file text : String} {e : FileError}
    (failed : storage.writeText (pathIn folder file) text between = (.error e, after)) :
    OnlyTouches folder (file :: files) top after := by
  rcases honest.breaks _ _ _ _ _ failed with rfl | ⟨left, opened⟩
  · exact fun names outside => touched names (List.forall_mem_cons.mp outside).2
  · exact touched.write opened

end

/-! ### Later runs -/

/-- Storage has done one operation after the other that a folder needs to be set up. -/
def Serves (storage : Storage (StateM Node)) (folder : String) (top : Node) : Prop :=
  ∃ there seen created configured after,
    storage.pathExists (pathIn folder fileName) top = (.ok there, seen) ∧
    storage.createFolders folder seen = (.ok (), created) ∧
    storage.writeText (pathIn folder fileName) (fileText initial.toValue) created =
      (.ok (), configured) ∧
    storage.writeText (pathIn folder schemaFileName) (fileText schemaDocument) configured =
      (.ok (), after)

/-- A later run writes both files, on any storage on which nothing fails any more. Whatever has
happened to the directory between the runs, a configuration has not appeared there. -/
def Retriable (folder : String) (after : Node) : Prop :=
  ∀ (storage : Storage (StateM Node)) (later : Node), storage.Honest →
    (Configured folder later → Configured folder after) → Serves storage folder later →
    (setUp storage folder later).1 = .ok "" ∧ Written folder (setUp storage folder later).2

/-- Every later run is refused that can look at the folder, as long as the configuration stays
where it is. -/
def Blocked (folder : String) (after : Node) : Prop :=
  ∀ (storage : Storage (StateM Node)) (later seen : Node) (there : Bool), storage.Honest →
    (Configured folder after → Configured folder later) →
    storage.pathExists (pathIn folder fileName) later = (.ok there, seen) →
    setUp storage folder later = (.error (.alreadyConfigured (pathIn folder fileName)), later)

section
variable {storage : Storage (StateM Node)} {folder : String} {top between after : Node}

/-- What is written behind a configuration leaves it. -/
theorem written_of_writes (honest : storage.Honest) {configured : Node}
    (stored : storage.writeText (pathIn folder fileName) (fileText initial.toValue) between =
      (.ok (), configured))
    (beside : storage.writeText (pathIn folder schemaFileName) (fileText schemaDocument)
      configured = (.ok (), after)) : Written folder after where
  configuration := readPath_beside_schema (readPath_of_writePath (honest.writes _ _ _ _ stored))
    (honest.writes _ _ _ _ beside)
  schema := readPath_of_writePath (honest.writes _ _ _ _ beside)

/-- Where there is no configuration, both files are written if storage serves. -/
theorem setUp_of_absent (honest : storage.Honest) (absent : ¬ Configured folder top)
    (serves : Serves storage folder top) :
    (setUp storage folder top).1 = .ok "" ∧ Written folder (setUp storage folder top).2 := by
  obtain ⟨there, seen, created, configured, last, looked, made, stored, beside⟩ := serves
  have progress := progress_setUp storage folder top
  rcases ended : setUp storage folder top with ⟨answer, after⟩
  rw [ended] at progress
  cases progress with
  | unseen failed => cases looked.symm.trans failed
  | refused found => exact absurd (honest.looked found).2 absent
  | noFolder lookedToo failed =>
    cases looked.symm.trans lookedToo
    cases made.symm.trans failed
  | noConfiguration lookedToo madeToo failed =>
    cases looked.symm.trans lookedToo
    cases made.symm.trans madeToo
    cases stored.symm.trans failed
  | noSchema lookedToo madeToo storedToo failed =>
    cases looked.symm.trans lookedToo
    cases made.symm.trans madeToo
    cases stored.symm.trans storedToo
    cases beside.symm.trans failed
  | complete _ _ storedToo besideToo => exact ⟨rfl, written_of_writes honest storedToo besideToo⟩

/-- Where there is a configuration, a run is refused that sees it. -/
theorem setUp_of_configured (honest : storage.Honest) (configured : Configured folder top)
    {there : Bool} {seen : Node}
    (looked : storage.pathExists (pathIn folder fileName) top = (.ok there, seen)) :
    setUp storage folder top = (.error (.alreadyConfigured (pathIn folder fileName)), top) := by
  obtain ⟨rfl, told⟩ := honest.looked looked
  obtain rfl : there = true := Except.ok.inj (told.symm.trans configured)
  have progress := progress_setUp storage folder seen
  rcases ended : setUp storage folder seen with ⟨answer, after⟩
  rw [ended] at progress
  cases progress with
  | refused found =>
    cases looked.symm.trans found
    rfl
  | _ lookedToo => cases looked.symm.trans lookedToo

/-- Where a run leaves no configuration behind it can be repeated. -/
theorem retriable_of_absent (absent : ¬ Configured folder after) : Retriable folder after :=
  fun _ _ honest appeared serves =>
    setUp_of_absent honest (fun there => absent (appeared there)) serves

/-- Where a run leaves a configuration behind it is blocked. -/
theorem blocked_of_configured (there : Configured folder after) : Blocked folder after :=
  fun _ _ _ _ honest stays looked => setUp_of_configured honest (stays there) looked

end

/-! ### Failures -/

/-- How a run ends, whichever operations fail. -/
inductive Ends (storage : Storage (StateM Node)) (folder : String) (top : Node) :
    Answer → Node → Prop
  /-- Both files are written, and no other file is touched. -/
  | written {after : Node} : Written folder after →
    OnlyTouches folder [schemaFileName, fileName] top after → Ends storage folder top (.ok "") after
  /-- The run fails before it opens a file. No file is touched, and the run can be repeated where
  there was no configuration. Only a path that leads up may come upon one later: its way may go
  through the very place that the configuration would have. -/
  | untouched {failure : Failure} {after : Node} : OnlyTouches folder [] top after →
    (¬ Configured folder top →
      Retriable folder after ∨ ".." ∈ pathNames folder ∧ Configured folder after) →
    Ends storage folder top (.error failure) after
  /-- The write of the configuration fails when the file has been opened. -/
  | torn {e : FileError} {between after : Node} :
    storage.writeText (pathIn folder fileName) (fileText initial.toValue) between =
      (.error e, after) →
    OnlyTouches folder [fileName] top after → Blocked folder after →
    Ends storage folder top (.error (.notWritten e)) after
  /-- The write of the schema fails. The configuration is there and stays. -/
  | unaccompanied {e : FileError} {between after : Node} :
    storage.writeText (pathIn folder schemaFileName) (fileText schemaDocument) between =
      (.error e, after) →
    after.readPath (pathIn folder fileName) = .ok (fileText initial.toValue) →
    OnlyTouches folder [schemaFileName, fileName] top after → Blocked folder after →
    Ends storage folder top (.error (.notWritten e)) after

section
variable {storage : Storage (StateM Node)} {folder : String} {top after : Node}

/-- Where only folders have been created, the run can be repeated, unless it is one of them that
stands in the way. -/
theorem Ends.of_created {failure : Failure}
    (created : FoldersCreated (folder :: foldersOnWay folder) top after) :
    Ends storage folder top (.error failure) after := by
  refine .untouched (.of_created created) fun absent => ?_
  by_cases there : Configured folder after
  · refine .inr ⟨by_contra fun noUp => absent ?_, there⟩
    exact (created.hasPath_iff noUp plainName_fileName).mp there
  · exact .inl (retriable_of_absent there)

/-- On the way to its own folder the place of a configuration is taken by a folder. -/
example : (setUp directoryStorage "configuration.json/.." Node.empty).2.find [fileName] =
    .ok Node.empty := rfl

/-- A file that has been opened is there. -/
theorem configured_of_writePath {left : Option String} {between : Node}
    (opened : between.writePath left (pathIn folder fileName) = .ok after) :
    Configured folder after := by
  obtain ⟨names, named, altered⟩ := writePath_eq_ok.mp opened
  exact hasPath_eq_true.mpr ⟨names, _, follow_alter altered named, find_alter_self altered⟩

/-- However the operations of a run end, it writes both files, or it fails. If it fails it
touches no file, and can be repeated where there was no configuration, unless it is one of the
two writes that fails. The write of the configuration may leave its file behind, and the write
of the schema leaves the whole configuration behind: then no run is of use any more. -/
theorem ends_setUp (honest : storage.Honest) (folder : String) (top : Node) :
    Ends storage folder top (setUp storage folder top).1 (setUp storage folder top).2 := by
  have progress := progress_setUp storage folder top
  rcases ended : setUp storage folder top with ⟨answer, after⟩
  rw [ended] at progress
  cases progress with
  | unseen looked =>
    have same := honest.looks (pathIn folder fileName) top
    rw [looked] at same
    cases same
    exact .of_created .refl
  | refused looked =>
    obtain ⟨rfl, _⟩ := honest.looked looked
    exact .of_created .refl
  | noFolder looked made =>
    obtain ⟨rfl, _⟩ := honest.looked looked
    exact .of_created (honest.foldersCreated made)
  | noConfiguration looked made stored =>
    obtain ⟨rfl, _⟩ := honest.looked looked
    have created := honest.foldersCreated made
    rcases honest.breaks _ _ _ _ _ stored with rfl | ⟨left, opened⟩
    · exact .of_created created
    · exact .torn stored ((OnlyTouches.of_created created).write opened)
        (blocked_of_configured (configured_of_writePath opened))
  | noSchema looked made stored beside =>
    obtain ⟨rfl, _⟩ := honest.looked looked
    -- the configuration has been written before, and the failure does not take it back
    have stored := honest.writes _ _ _ _ stored
    have touched := (OnlyTouches.of_created (honest.foldersCreated made)).write stored
    have read := readPath_of_writePath stored
    have kept : after.readPath (pathIn folder fileName) = .ok (fileText initial.toValue) := by
      rcases honest.breaks _ _ _ _ _ beside with rfl | ⟨left, opened⟩
      · exact read
      · exact readPath_beside_schema read opened
    exact .unaccompanied beside kept (touched.broken honest beside)
      (blocked_of_configured (hasPath_of_readPath kept))
  | complete looked made stored beside =>
    obtain ⟨rfl, _⟩ := honest.looked looked
    have touched := (OnlyTouches.of_created (honest.foldersCreated made)).write
      (honest.writes _ _ _ _ stored)
    exact .written (written_of_writes honest stored beside)
      (touched.write (honest.writes _ _ _ _ beside))

end

/-- A disk that is full takes new folders, but no text. -/
def fullDisk : Access → Option FileError
  | .write _ => some (.other "No space left on device (os error 28)")
  | _ => none

/-- A run on a full disk fails and touches no file, and repeated with room on the disk it writes
both files. -/
theorem fullDisk_retriable :
    (failingStorage fullDisk).Honest ∧
      (setUp (failingStorage fullDisk) "ctx" Node.empty).1 =
        .error (.notWritten (.other "No space left on device (os error 28)")) ∧
      OnlyTouches "ctx" [] Node.empty (setUp (failingStorage fullDisk) "ctx" Node.empty).2 ∧
      Written "ctx"
        (setUp directoryStorage "ctx" (setUp (failingStorage fullDisk) "ctx" Node.empty).2).2 := by
  have honest := failingStorage_honest fullDisk
  have ends := ends_setUp honest "ctx" Node.empty
  have failed : (setUp (failingStorage fullDisk) "ctx" Node.empty).1 =
      .error (.notWritten (.other "No space left on device (os error 28)")) := rfl
  have serves : Serves directoryStorage "ctx"
      (setUp (failingStorage fullDisk) "ctx" Node.empty).2 :=
    ⟨_, _, _, _, _, rfl, rfl, rfl, rfl⟩
  have repeated : (setUp directoryStorage "ctx"
      (setUp (failingStorage fullDisk) "ctx" Node.empty).2).1 = .ok "" := rfl
  refine ⟨honest, failed, ?_⟩
  rcases ended : setUp (failingStorage fullDisk) "ctx" Node.empty with ⟨answer, after⟩
  rw [ended] at ends failed serves repeated
  cases failed
  have notBlocked : ¬ Blocked "ctx" after := fun blocked => by
    obtain ⟨there, seen, _, _, _, looked, _⟩ := serves
    have refused := blocked _ after seen there directoryStorage_honest id looked
    rw [refused] at repeated
    cases repeated
  cases ends with
  | untouched touched repeatable =>
    rcases repeatable (by unfold Configured; decide) with retriable | ⟨up, _⟩
    · exact ⟨touched, (retriable _ after directoryStorage_honest id serves).2⟩
    · exact absurd up (by decide)
  | torn _ _ blocked => exact absurd blocked notBlocked
  | unaccompanied _ _ _ blocked => exact absurd blocked notBlocked

/-- A folder in which a folder stands where the schema has its place. -/
def occupiedSchema : Node :=
  .folder [("ctx", .folder [(schemaFileName, Node.empty)])]

/-- The folder once nothing stands in the way of the schema any more. -/
def freedSchema : Node :=
  .folder [("ctx", .folder [(fileName, .file (some (fileText initial.toValue)))])]

/-- A run that fails may have created a file, and then it cannot be repeated. -/
theorem occupiedSchema_not_retriable :
    (setUp directoryStorage "ctx" occupiedSchema).1 = .error (.notWritten .isDirectory) ∧
      (setUp directoryStorage "ctx" occupiedSchema).2.readPath (pathIn "ctx" fileName) =
        .ok (fileText initial.toValue) ∧
      ¬ Retriable "ctx" (setUp directoryStorage "ctx" occupiedSchema).2 ∧
      ¬ ∀ (storage : Storage (StateM Node)) (folder : String) (top : Node), storage.Honest →
        (setUp storage folder top).1 = .ok "" ∧ Written folder (setUp storage folder top).2 ∨
        (∃ failure, (setUp storage folder top).1 = .error failure) ∧
          (∀ file ∈ [fileName, schemaFileName], ∀ text,
            (setUp storage folder top).2.readPath (pathIn folder file) = .ok text ↔
              top.readPath (pathIn folder file) = .ok text) ∧
          (¬ Configured folder top → Retriable folder (setUp storage folder top).2) := by
  have failed : (setUp directoryStorage "ctx" occupiedSchema).1 =
      .error (.notWritten .isDirectory) := rfl
  have created : (setUp directoryStorage "ctx" occupiedSchema).2.readPath (pathIn "ctx" fileName) =
      .ok (fileText initial.toValue) := rfl
  have refused : setUp directoryStorage "ctx" freedSchema =
      (.error (.alreadyConfigured (pathIn "ctx" fileName)), freedSchema) := rfl
  have serves : Serves directoryStorage "ctx" freedSchema := ⟨_, _, _, _, _, rfl, rfl, rfl, rfl⟩
  have stuck : ¬ Retriable "ctx" (setUp directoryStorage "ctx" occupiedSchema).2 := by
    intro retriable
    have done := retriable directoryStorage freedSchema directoryStorage_honest
      (fun _ => hasPath_of_readPath created) serves
    rw [refused] at done
    cases done.1
  refine ⟨failed, created, stuck, fun atomic => ?_⟩
  rcases atomic directoryStorage "ctx" occupiedSchema directoryStorage_honest with
    ⟨done, _⟩ | ⟨_, _, repeatable⟩
  · cases failed.symm.trans done
  · exact stuck (repeatable (by unfold Configured; decide))

end CommandLine

end DomainSql
