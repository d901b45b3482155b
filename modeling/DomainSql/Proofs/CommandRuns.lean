import DomainSql.CommandLine
import DomainSql.Proofs.ConfigurationDocuments
import DomainSql.Proofs.RequestDocuments

/-!
# Runs of the command line

Commands are run one after the other on a directory, each on what the one before it has left.
Compiling only reads. Initializing writes where there is no configuration, and what it writes
are the defaults, which are used where there is no configuration anyway. So a request is
compiled alike in front of it and behind it, and from then on nothing is written any more.
-/
namespace DomainSql.CommandLine

open DomainSql.Configuration

/-- A call of a command. The text of a request comes with the call. -/
inductive Call where
  | initialize_
  | compile (request : String) (pretty : Bool)

/-- What a call prints, or why it fails. -/
abbrev Answer := Except Failure String

/-- The job of a call. The request to compile is what the input gives. -/
def Call.job (folder : String) : Call → Job (StateM Node) Failure String
  | .initialize_ => run directoryStorage (pure (.ok "")) folder .initialize_
  | .compile request pretty =>
    run directoryStorage (pure (.ok request)) folder (.compile none pretty)

/-- A call gets an answer and leaves a directory. -/
def Call.perform (call : Call) (folder : String) (top : Node) : Answer × Node :=
  let ending := (call.job folder).ending [] top
  (ending.1.1, ending.2)

/-- The directory that calls leave, made one after the other. -/
def leave (folder : String) : List Call → Node → Node
  | [], top => top
  | call :: rest, top => leave folder rest (call.perform folder top).2

/-- Calls and their answers, made one after the other. -/
def history (folder : String) : List Call → Node → List (Call × Answer)
  | [], _ => []
  | call :: rest, top =>
    let ending := call.perform folder top
    (call, ending.1) :: history folder rest ending.2

/-- A call has written a configuration. -/
def initialized : Call × Answer → Bool
  | (.initialize_, .ok _) => true
  | _ => false

/-- There is a configuration in a folder. -/
def Configured (folder : String) (top : Node) : Prop :=
  top.hasPath (pathIn folder fileName) = .ok true

/-- Calls do not disturb the configuration of a folder. -/
structure Undisturbed (folder : String) (top : Node) (calls : List Call) : Prop where
  /-- Compiling leaves every file as it is. -/
  reads : ∀ before request pretty later, calls = before ++ .compile request pretty :: later →
    leave folder (before ++ [.compile request pretty]) top = leave folder before top
  /-- From where there is a configuration every file stays as it is. -/
  kept : ∀ before later, calls = before ++ later → Configured folder (leave folder before top) →
    leave folder calls top = leave folder before top
  /-- From there on a configuration is never written. -/
  refused : ∀ before later, calls = before ++ later → Configured folder (leave folder before top) →
    ∀ answer, (.initialize_, answer) ∈ history folder later (leave folder before top) →
      answer = .error (.alreadyConfigured (pathIn folder fileName))
  /-- A configuration that has been written is there. -/
  there : ∀ before later output, calls = before ++ .initialize_ :: later →
    (Call.initialize_.perform folder (leave folder before top)).1 = .ok output →
    Configured folder (leave folder (before ++ [.initialize_]) top)
  /-- A configuration is written once at most. -/
  once : (history folder calls top).countP initialized ≤ 1
  /-- It is not written where there is one. -/
  never : Configured folder top → (history folder calls top).countP initialized = 0
  /-- Unless a file could not be written, a request is compiled alike wherever it stands. -/
  alike : (∀ entry ∈ history folder calls top, ∀ e, entry.2 ≠ .error (.notWritten e)) →
    ∀ request pretty answer other,
      (.compile request pretty, answer) ∈ history folder calls top →
      (.compile request pretty, other) ∈ history folder calls top → other = answer

/-! ### One call -/

/-- A run that sets a folder up on some storage gives an answer and leaves a directory. -/
def setUp (storage : Storage (StateM Node)) (folder : String) (top : Node) : Answer × Node :=
  let ending := (run storage (pure (.ok "")) folder .initialize_).ending [] top
  (ending.1.1, ending.2)

/-- How far a run comes. It goes on behind operations that succeed, and the first that fails
ends it. -/
inductive Progress (storage : Storage (StateM Node)) (folder : String) (top : Node) :
    Answer → Node → Prop
  | unseen {e : FileError} {after : Node} :
    storage.pathExists (pathIn folder fileName) top = (.error e, after) →
    Progress storage folder top (.error (.file e)) after
  | refused {after : Node} : storage.pathExists (pathIn folder fileName) top = (.ok true, after) →
    Progress storage folder top (.error (.alreadyConfigured (pathIn folder fileName))) after
  | noFolder {e : FileError} {seen after : Node} :
    storage.pathExists (pathIn folder fileName) top = (.ok false, seen) →
    storage.createFolders folder seen = (.error e, after) →
    Progress storage folder top (.error (.notWritten e)) after
  | noConfiguration {e : FileError} {seen created after : Node} :
    storage.pathExists (pathIn folder fileName) top = (.ok false, seen) →
    storage.createFolders folder seen = (.ok (), created) →
    storage.writeText (pathIn folder fileName) (fileText initial.toValue) created =
      (.error e, after) →
    Progress storage folder top (.error (.notWritten e)) after
  | noSchema {e : FileError} {seen created configured after : Node} :
    storage.pathExists (pathIn folder fileName) top = (.ok false, seen) →
    storage.createFolders folder seen = (.ok (), created) →
    storage.writeText (pathIn folder fileName) (fileText initial.toValue) created =
      (.ok (), configured) →
    storage.writeText (pathIn folder schemaFileName) (fileText schemaDocument) configured =
      (.error e, after) →
    Progress storage folder top (.error (.notWritten e)) after
  | complete {seen created configured after : Node} :
    storage.pathExists (pathIn folder fileName) top = (.ok false, seen) →
    storage.createFolders folder seen = (.ok (), created) →
    storage.writeText (pathIn folder fileName) (fileText initial.toValue) created =
      (.ok (), configured) →
    storage.writeText (pathIn folder schemaFileName) (fileText schemaDocument) configured =
      (.ok (), after) →
    Progress storage folder top (.ok "") after

/-- Setting up a folder ends in one of the ways of `Progress`, with what the storage answers. -/
theorem progress_setUp (storage : Storage (StateM Node)) (folder : String) (top : Node) :
    Progress storage folder top (setUp storage folder top).1 (setUp storage folder top).2 := by
  unfold setUp run initializeFolder writeTo
  simp only [Job.ending_bind, Job.ending_operation]
  rcases looked : storage.pathExists (pathIn folder fileName) top with ⟨e | ⟨_ | _⟩, seen⟩
  · exact .unseen looked
  · simp only [Except.mapError, Bool.false_eq_true, if_false, Job.ending_bind, Job.ending_part,
      Job.ending_operation]
    rcases made : storage.createFolders folder seen with ⟨e | ⟨⟩, created⟩
    · exact .noFolder looked made
    rcases stored : storage.writeText (pathIn folder fileName) (fileText initial.toValue) created
      with ⟨e | ⟨⟩, configured⟩
    · simp only [stored]
      exact .noConfiguration looked made stored
    rcases beside : storage.writeText (pathIn folder schemaFileName) (fileText schemaDocument)
      configured with ⟨e | ⟨⟩, after⟩
    · simp only [stored, beside]
      exact .noSchema looked made stored beside
    · simp only [stored, beside]
      exact .complete looked made stored beside
  · exact .refused looked

/-- How a call that initializes can end: a look at the folder fails, there is a configuration,
a file cannot be written, or there is none and it is written. -/
inductive Initializes (folder : String) (top : Node) : Answer → Node → Prop
  | unseen (e : FileError) : top.hasPath (pathIn folder fileName) = .error e →
    Initializes folder top (.error (.file e)) top
  | refused : Configured folder top →
    Initializes folder top (.error (.alreadyConfigured (pathIn folder fileName))) top
  | notWritten (e : FileError) (after : Node) : top.hasPath (pathIn folder fileName) = .ok false →
    Initializes folder top (.error (.notWritten e)) after
  | written (after : Node) : top.hasPath (pathIn folder fileName) = .ok false →
    after.readPath (pathIn folder fileName) = .ok (fileText initial.toValue) →
    Initializes folder top (.ok "") after

section
variable {folder : String} {top : Node}

/-- A call that initializes ends in one of the four ways in which it can end on a directory. -/
theorem exists_initializes (folder : String) (top : Node) :
    ∃ answer after, Call.initialize_.perform folder top = (answer, after) ∧
      Initializes folder top answer after := by
  have progress := progress_setUp directoryStorage folder top
  have performed : Call.initialize_.perform folder top = setUp directoryStorage folder top := rfl
  rcases ended : setUp directoryStorage folder top with ⟨answer, after⟩
  rw [ended] at progress performed
  refine ⟨answer, after, performed, ?_⟩
  cases progress with
  | unseen looked =>
    obtain ⟨failed, rfl⟩ := Prod.mk.inj looked
    exact .unseen _ failed
  | refused looked =>
    obtain ⟨there, rfl⟩ := Prod.mk.inj looked
    exact .refused there
  | noFolder looked => exact .notWritten _ after (Prod.mk.inj looked).1
  | noConfiguration looked => exact .notWritten _ after (Prod.mk.inj looked).1
  | noSchema looked => exact .notWritten _ after (Prod.mk.inj looked).1
  | complete looked made stored beside =>
    have read := Node.readPath_of_writePath (changeDirectory_eq_ok.mp stored)
    exact .written after (Prod.mk.inj looked).1
      (readPath_beside_schema read (changeDirectory_eq_ok.mp beside))

/-- The metadata of a folder, or why it is not loaded. -/
def loaded (folder : String) (top : Node) : Except LoadError Metadata :=
  ((load directoryStorage folder).ending [] top).1.1

/-- The answer to a request under the metadata of a folder. -/
def respond (metadata : Except LoadError Metadata) (request : String) (pretty : Bool) :
    Answer := do
  let metadata ← metadata.mapError Failure.notLoaded
  let request ← (Request.parse request).mapError Failure.requestRefused
  let plan ← (DomainSql.compile metadata request).outcome.mapError Failure.notCompiled
  return String.join (plan.prepared.map (printed pretty))

/-- Loading the metadata of a folder only reads. -/
theorem load_onlyReads (folder : String) : (load directoryStorage folder).OnlyReads := by
  refine Job.OnlyReads.bind (.operation (fun _ => rfl) _) fun there => ?_
  cases there with
  | false => exact fun _ _ => rfl
  | true =>
    refine Job.OnlyReads.bind (.part ?_ _) fun configuration => ?_
    · refine Job.OnlyReads.bind (.operation (fun _ => rfl) _) fun text => ?_
      cases Configuration.parse text <;> exact fun _ _ => rfl
    · cases configuration.validate <;> exact fun _ _ => rfl

/-- A request is answered from the metadata of the folder, and the directory stays as it is. -/
theorem exists_ending_compileText (folder request : String) (pretty : Bool) (top : Node) :
    ∃ told, (compileText directoryStorage folder request pretty).ending [] top =
      ((respond (loaded folder top) request pretty, told), top) := by
  have same := load_onlyReads folder [] top
  unfold compileText loaded
  simp only [Job.ending_bind, Job.ending_part]
  rcases ended : (load directoryStorage folder).ending [] top with ⟨⟨e | metadata, told⟩, after⟩
  · rw [ended] at same
    cases same
    exact ⟨_, rfl⟩
  · rw [ended] at same
    cases same
    simp only [respond, Except.mapError]
    cases Request.parse request with
    | error refusal => exact ⟨_, rfl⟩
    | ok request =>
      simp only [Job.ending_bind, Job.ending_traced, ok_bind]
      cases (DomainSql.compile metadata request).outcome <;> exact ⟨_, rfl⟩

/-- A call that compiles is answered from the metadata of the folder, and leaves the directory
as it is. -/
theorem perform_compile (request : String) (pretty : Bool) :
    (Call.compile request pretty).perform folder top =
      (respond (loaded folder top) request pretty, top) := by
  have given : (pure (Except.ok request) : StateM Node (Except FileError String)) top =
      (.ok request, top) := rfl
  obtain ⟨told, ended⟩ := exists_ending_compileText folder request pretty top
  unfold Call.perform Call.job run
  simp only [Job.ending_bind, Job.ending_operation, given, Except.mapError, ended]

/-- Where there is no configuration the defaults are loaded. -/
theorem loaded_of_absent (absent : top.hasPath (pathIn folder fileName) = .ok false) :
    loaded folder top = .ok {} := by
  have seen : directoryStorage.pathExists (pathIn folder fileName) top = (.ok false, top) :=
    congrArg (·, top) absent
  unfold loaded load
  rw [Job.ending_bind, Job.ending_operation, seen]
  rfl

/-- The first configuration of a folder has the defaults. -/
theorem loaded_of_initial
    (read : top.readPath (pathIn folder fileName) = .ok (fileText initial.toValue)) :
    loaded folder top = .ok {} := by
  have valid : initial.validate = .ok {} := by rfl
  rw [loaded, ending_load read (parse_thinned (Json.Thinned.whole _ _)).1, valid]
  rfl

/-- A call leaves what is loaded from a folder as it is, unless a file could not be written. -/
theorem loaded_perform {call : Call}
    (wrote : ∀ e, (call.perform folder top).1 ≠ .error (.notWritten e)) :
    loaded folder (call.perform folder top).2 = loaded folder top := by
  cases call with
  | compile request pretty => rw [perform_compile]
  | initialize_ =>
    obtain ⟨answer, after, ended, step⟩ := exists_initializes folder top
    rw [ended] at wrote ⊢
    cases step with
    | unseen e failed => rfl
    | refused there => rfl
    | notWritten e _ absent => exact absurd rfl (wrote e)
    | written _ absent read => rw [loaded_of_initial read, loaded_of_absent absent]

/-- Where there is a configuration, a call that initializes is refused. -/
theorem perform_initialize_of_configured (configured : Configured folder top) :
    Call.initialize_.perform folder top =
      (.error (.alreadyConfigured (pathIn folder fileName)), top) := by
  obtain ⟨answer, after, ended, step⟩ := exists_initializes folder top
  unfold Configured at configured
  rw [ended]
  cases step with
  | unseen e failed =>
    rw [configured] at failed
    cases failed
  | refused there => rfl
  | notWritten e _ absent =>
    rw [configured] at absent
    cases absent
  | written _ absent read =>
    rw [configured] at absent
    cases absent

/-- Where there is a configuration, no call changes anything. -/
theorem directory_of_configured (configured : Configured folder top) (call : Call) :
    (call.perform folder top).2 = top := by
  cases call with
  | compile request pretty => rw [perform_compile]
  | initialize_ => rw [perform_initialize_of_configured configured]

/-- A configuration that has been written is there. -/
theorem configured_of_initialized {output : String}
    (written : (Call.initialize_.perform folder top).1 = .ok output) :
    Configured folder (Call.initialize_.perform folder top).2 := by
  obtain ⟨answer, after, ended, step⟩ := exists_initializes folder top
  rw [ended] at written ⊢
  cases step with
  | unseen e failed => cases written
  | refused there => cases written
  | notWritten e _ absent => cases written
  | written _ absent read => exact Node.hasPath_of_readPath read

end

/-! ### Calls in a row -/

section
variable {folder : String} {top : Node}

/-- Calls leave behind what the later ones leave of what the earlier ones have left. -/
theorem leave_append (before later : List Call) :
    leave folder (before ++ later) top = leave folder later (leave folder before top) := by
  induction before generalizing top with
  | nil => rfl
  | cons call rest ih => exact ih

/-- Where there is a configuration, calls in a row change nothing. -/
theorem leave_of_configured (configured : Configured folder top) (calls : List Call) :
    leave folder calls top = top := by
  induction calls with
  | nil => rfl
  | cons call rest ih => rw [leave, directory_of_configured configured, ih]

/-- Where there is a configuration, every call that initializes is refused. -/
theorem answer_of_configured (configured : Configured folder top) {calls : List Call}
    {answer : Answer} (made : (.initialize_, answer) ∈ history folder calls top) :
    answer = .error (.alreadyConfigured (pathIn folder fileName)) := by
  induction calls with
  | nil => cases made
  | cons call rest ih =>
    rw [history, directory_of_configured configured] at made
    rcases List.mem_cons.mp made with first | made
    · obtain ⟨rfl, rfl⟩ := Prod.mk.inj first
      rw [perform_initialize_of_configured configured]
    · exact ih made

/-- Where there is a configuration, none is written any more. -/
theorem countP_of_configured (configured : Configured folder top) (calls : List Call) :
    (history folder calls top).countP initialized = 0 := by
  rw [List.countP_eq_zero]
  rintro ⟨call, answer⟩ made
  cases call with
  | compile request pretty => exact Bool.false_ne_true
  | initialize_ =>
    rw [answer_of_configured configured made]
    exact Bool.false_ne_true

/-- A configuration is written once at most. The induction goes along the calls: behind the
one that writes it there is a configuration, and in front of it none has been written. -/
theorem countP_initialized_le (calls : List Call) :
    (history folder calls top).countP initialized ≤ 1 := by
  induction calls generalizing top with
  | nil => exact Nat.zero_le 1
  | cons call rest ih =>
    rw [history, List.countP_cons]
    by_cases writes : initialized (call, (call.perform folder top).1) = true
    · obtain ⟨output, rfl, written⟩ : ∃ output, call = .initialize_ ∧
          (call.perform folder top).1 = .ok output := by
        unfold initialized at writes
        split at writes
        · rename_i output same
          obtain ⟨first, second⟩ := Prod.mk.inj same
          exact ⟨output, first, second⟩
        · cases writes
      have noMore := countP_of_configured (configured_of_initialized written) rest
      rw [if_pos writes]
      exact Nat.le_of_eq (congrArg (· + 1) noMore)
    · rw [if_neg writes]
      exact ih

/-- Every request is answered from the metadata that the folder had in the beginning, unless a
file could not be written. -/
theorem answer_of_compile {calls : List Call} {request : String} {pretty : Bool}
    {answer : Answer}
    (wrote : ∀ entry ∈ history folder calls top, ∀ e, entry.2 ≠ .error (.notWritten e))
    (made : (.compile request pretty, answer) ∈ history folder calls top) :
    answer = respond (loaded folder top) request pretty := by
  induction calls generalizing top with
  | nil => cases made
  | cons call rest ih =>
    obtain ⟨wroteFirst, wroteRest⟩ := List.forall_mem_cons.mp wrote
    rcases List.mem_cons.mp made with first | made
    · obtain ⟨rfl, rfl⟩ := Prod.mk.inj first
      rw [perform_compile]
    · rw [ih wroteRest made, loaded_perform wroteFirst]

end

/-- The command line never disturbs a configuration, whatever is in the directory and whatever
is called. -/
theorem undisturbed (folder : String) (top : Node) (calls : List Call) :
    Undisturbed folder top calls where
  reads := by
    rintro before request pretty later rfl
    rw [leave_append, leave, perform_compile, leave]
  kept := by
    rintro before later rfl configured
    rw [leave_append, leave_of_configured configured]
  refused := by
    rintro before later rfl configured answer made
    exact answer_of_configured configured made
  there := by
    rintro before later output rfl written
    rw [leave_append]
    exact configured_of_initialized written
  once := countP_initialized_le calls
  never configured := countP_of_configured configured calls
  alike := by
    intro wrote request pretty answer other made madeToo
    rw [answer_of_compile wrote made, answer_of_compile wrote madeToo]

/-- A request for the removal of all users. -/
def removeUsers : Request where
  operation := some "delete"
  domain := some "user"

/-- The removal is compiled in front of the first configuration of a folder and behind it. -/
def removalCalls : List Call :=
  [.compile (Json.text removeUsers.toValue) false, .initialize_,
    .compile (Json.text removeUsers.toValue) false, .initialize_]

/-- One configuration is written, and the removal has the same answer in front of it and behind
it. -/
theorem removal_undisturbed :
    (∀ entry ∈ history "ctx" removalCalls Node.empty, ∀ e, entry.2 ≠ .error (.notWritten e)) ∧
    (history "ctx" removalCalls Node.empty).countP initialized = 1 ∧
    ∀ answer, (.compile (Json.text removeUsers.toValue) false, answer) ∈
        history "ctx" removalCalls Node.empty →
      answer = .ok "DELETE FROM t_user\n[]\n" := by
  have exact : removeUsers.Exact := ⟨nofun, nofun, nofun⟩
  have parsed : Request.parse (Json.text removeUsers.toValue) = .ok removeUsers :=
    (recovers_request exact).parse_text (by decide)
  have shown : respond (.ok {}) (Json.text removeUsers.toValue) false =
      .ok "DELETE FROM t_user\n[]\n" := by
    rw [respond, parsed]
    rfl
  obtain ⟨after, written⟩ : ∃ after, Call.initialize_.perform "ctx" Node.empty =
      (.ok "", after) := ⟨_, rfl⟩
  have configured : Configured "ctx" after := by
    have there := configured_of_initialized (congrArg Prod.fst written)
    rwa [written] at there
  have absent : loaded "ctx" Node.empty = .ok {} := loaded_of_absent rfl
  have present : loaded "ctx" after = .ok {} := by
    have same := @loaded_perform "ctx" Node.empty .initialize_ (by rw [written]; exact nofun)
    rwa [written, absent] at same
  have answers : history "ctx" removalCalls Node.empty = [
      (.compile (Json.text removeUsers.toValue) false, .ok "DELETE FROM t_user\n[]\n"),
      (.initialize_, .ok ""),
      (.compile (Json.text removeUsers.toValue) false, .ok "DELETE FROM t_user\n[]\n"),
      (.initialize_, .error (.alreadyConfigured "ctx/configuration.json"))] := by
    simp only [removalCalls, history, perform_compile, absent, shown, written, present,
      perform_initialize_of_configured configured]
    rfl
  have wrote : ∀ entry ∈ history "ctx" removalCalls Node.empty, ∀ e,
      entry.2 ≠ .error (.notWritten e) := by
    rw [answers]
    simp
  refine ⟨wrote, by rw [answers]; rfl, fun answer made => ?_⟩
  have first : (.compile (Json.text removeUsers.toValue) false,
      .ok "DELETE FROM t_user\n[]\n") ∈ history "ctx" removalCalls Node.empty := by
    rw [answers]
    exact List.mem_cons_self
  have alike := (undisturbed "ctx" Node.empty removalCalls).alike wrote
  exact alike (Json.text removeUsers.toValue) false _ answer first made

end DomainSql.CommandLine
