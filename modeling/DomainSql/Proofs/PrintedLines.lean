import DomainSql.CommandLine.Arguments
import DomainSql.Proofs.AbsentCharacters
import DomainSql.Proofs.Acceptance
import DomainSql.Proofs.CommandRuns
import DomainSql.Proofs.Json.Controls

/-!
# Two lines for a statement

Compiling prints two lines for each statement, its text and its arguments. A reader who takes
the output apart at its line feeds finds them again, because neither line has a line feed of its
own: only the naming could bring one into the text of a statement, and in the arguments it is
escaped.

Nothing is printed before all is compiled, so what is printed is the whole plan or nothing.
-/
namespace DomainSql

open Sql

/-- The two lines of a statement: its text, and its arguments as a JSON array. -/
def Sql.Prepared.lines (prepared : Prepared) : List (List Char) :=
  [prepared.sql.toList, Json.compact (.array (prepared.arguments.map Value.scalar))]

/-- The statements of a request: for a query that of the rows, and behind it that of their
number. Every other operation has one. -/
def Request.HasStatements (metadata : Metadata) (request : Request)
    (statements : List Statement) : Prop :=
  if request.operation = some Operation.query.name then
    ∃ rows count, (compileSelect metadata request).outcome = .ok rows ∧
      (compileCount metadata request).outcome = .ok count ∧
      statements = [.select rows, .select count]
  else ∃ statement, statements = [statement]

/-- The plan of a query has the two statements of its request, and every other plan has one. -/
theorem hasStatements_of_compile {metadata : Metadata} {request : Request} {plan : Plan}
    (compiled : (compile metadata request).outcome = .ok plan) :
    request.HasStatements metadata plan.work.statements := by
  obtain ⟨kind, _, compiledWork⟩ := work_of_compile compiled
  have operation := operationKind_eq_ok.mp kind
  unfold Request.HasStatements
  cases work : plan.work with
  | query rows count =>
    rw [work] at operation compiledWork
    simp only [Work.operation, compileWork, Traced.outcome_bind_eq_ok, Traced.outcome_pure,
      Except.ok.injEq, Work.query.injEq] at compiledWork
    obtain ⟨_, compiledRows, _, compiledCount, rfl, rfl⟩ := compiledWork
    exact (if_pos operation).mpr ⟨_, _, compiledRows, compiledCount, rfl⟩
  | insert statement | update statement | delete statement =>
    rw [work] at operation
    have noQuery : request.operation ≠ some Operation.query.name := by
      simp [operation, Work.operation, Operation.name]
    exact (if_neg noQuery).mpr ⟨_, rfl⟩

namespace CommandLine

/-- Statements are read from lines: one line is the text of a statement, and the next one has
its arguments. Behind the last line feed there is nothing. -/
def readStatements? : List (List Char) → Option (List Prepared)
  | [[]] => some []
  | sql :: arguments :: rest => do
    let values ← (Json.parse (Json.readList Json.readScalar) (String.ofList arguments)).toOption
    let others ← readStatements? rest
    return ⟨String.ofList sql, values⟩ :: others
  | _ => none

/-- An output holds statements line by line. -/
structure Framed (statements : List Prepared) (output : String) : Prop where
  /-- Two line feeds are written for each statement. -/
  counted : output.toList.count '\n' = 2 * statements.length
  /-- At the line feeds the output is cut into the lines of the statements, in order. The last
  line ends with a line feed, too. -/
  cut : output.toList.splitOn '\n' = statements.flatMap Prepared.lines ++ [[]]
  /-- If all numbers are integers of 64 bits, the statements are read back from the lines. -/
  readBack : (∀ statement ∈ statements, ∀ value ∈ statement.arguments, value.Exact) →
    readStatements? (output.toList.splitOn '\n') = some statements

/-! ### Lines -/

/-- Lines that are each ended by a line feed are found again where the text is cut. -/
theorem splitOn_ended {lines : List (List Char)} (whole : ∀ line ∈ lines, '\n' ∉ line) :
    (lines.flatMap (· ++ ['\n'])).splitOn '\n' = lines ++ [[]] := by
  induction lines with
  | nil => rfl
  | cons line rest ih =>
    obtain ⟨ofLine, ofRest⟩ := List.forall_mem_cons.mp whole
    rw [List.flatMap_cons, List.append_assoc, List.singleton_append,
      List.splitOn_append_cons_self, List.splitOn_eq_singleton ofLine, ih ofRest,
      List.singleton_append, List.cons_append]

/-- Lines that are each ended by a line feed have as many of them as there are lines. -/
theorem count_ended {lines : List (List Char)} (whole : ∀ line ∈ lines, '\n' ∉ line) :
    (lines.flatMap (· ++ ['\n'])).count '\n' = lines.length := by
  induction lines with
  | nil => rfl
  | cons line rest ih =>
    obtain ⟨ofLine, ofRest⟩ := List.forall_mem_cons.mp whole
    rw [List.flatMap_cons, List.count_append, List.count_append,
      List.count_eq_zero_of_not_mem ofLine, ih ofRest, List.length_cons]
    simp [Nat.add_comm]

/-- A statement is printed in two lines. -/
theorem toList_printed (statement : Prepared) :
    (printed false statement).toList = statement.lines.flatMap (· ++ ['\n']) := by
  simp [printed, Prepared.lines, Json.text]

/-- Statements are printed line by line. -/
theorem toList_join_printed (statements : List Prepared) :
    (String.join (statements.map (printed false))).toList =
      (statements.flatMap Prepared.lines).flatMap (· ++ ['\n']) := by
  simp [String.toList_join, List.flatMap_map, List.flatMap_assoc, toList_printed]

/-- Every statement has two lines. -/
theorem length_flatMap_lines (statements : List Prepared) :
    (statements.flatMap Prepared.lines).length = 2 * statements.length := by
  simp [Prepared.lines, Nat.mul_comm]

/-- The arguments of a statement are read back from their line. -/
theorem parse_arguments {arguments : List Scalar} (exact : ∀ value ∈ arguments, value.Exact) :
    Json.parse (Json.readList Json.readScalar)
      (Json.text (.array (arguments.map Value.scalar))) = .ok arguments := by
  have each : ∀ value ∈ arguments, Json.Recovers Json.readScalar (.scalar value) value :=
    fun value listed => Json.recovers_readScalar (exact value listed)
  refine (Json.recovers_readList each).parse_text ?_
  have flat : nestingOfItems (arguments.map Value.scalar) ≤ 0 := by
    rw [nestingOfItems_le, List.forall_mem_map]
    exact fun _ _ => Nat.le_refl 0
  rw [Value.nesting]
  exact Nat.le_trans (Nat.succ_le_succ flat) (by decide)

/-- Statements are read back from their lines, in order. -/
theorem readStatements?_lines {statements : List Prepared}
    (exact : ∀ statement ∈ statements, ∀ value ∈ statement.arguments, value.Exact) :
    readStatements? (statements.flatMap Prepared.lines ++ [[]]) = some statements := by
  induction statements with
  | nil => rfl
  | cons statement rest ih =>
    obtain ⟨ofFirst, ofRest⟩ := List.forall_mem_cons.mp exact
    have arguments := parse_arguments ofFirst
    unfold Json.text at arguments
    rw [List.flatMap_cons, Prepared.lines, List.append_assoc, List.cons_append, List.cons_append,
      List.nil_append, readStatements?, arguments, ih ofRest, String.ofList_toList]
    rfl

/-- Statements whose texts have no line feed are framed by the lines they are printed on. -/
theorem framed_printed {statements : List Prepared}
    (oneLine : ∀ statement ∈ statements, Lacks '\n' statement.sql) :
    Framed statements (String.join (statements.map (printed false))) := by
  have whole : ∀ line ∈ statements.flatMap Prepared.lines, '\n' ∉ line := by
    intro line inside
    obtain ⟨statement, listed, isLine⟩ := List.mem_flatMap.mp inside
    rcases List.mem_pair.mp isLine with rfl | rfl
    · exact oneLine statement listed
    · exact (Json.noControls_compact _).oneLine
  have cut := splitOn_ended whole
  rw [← toList_join_printed] at cut
  refine ⟨?_, cut, fun exact => ?_⟩
  · rw [toList_join_printed, count_ended whole, length_flatMap_lines]
  · rw [cut]
    exact readStatements?_lines exact

/-! ### Runs of the program -/

/-- The text of a request: what the input gives, unless a file is named. -/
def requestText (given : Except FileError String) (top : Node) :
    Option String → Except FileError String
  | none => given
  | some path => top.readPath path

/-- A text is a request that compiles under the configuration of a folder. -/
structure Compiles (folder : String) (top : Node) (text : Except FileError String)
    (metadata : Metadata) (request : Request) (plan : Plan) : Prop where
  configured : loaded folder top = .ok metadata
  read : ∃ document, text = .ok document ∧ Request.parse document = .ok request
  compiled : (DomainSql.compile metadata request).outcome = .ok plan

/-- A text is one request, and has one plan. -/
theorem Compiles.unique {folder : String} {top : Node} {text : Except FileError String}
    {metadata other : Metadata} {request request' : Request} {plan plan' : Plan}
    (compiles : Compiles folder top text metadata request plan)
    (compilesToo : Compiles folder top text other request' plan') :
    other = metadata ∧ request' = request ∧ plan' = plan := by
  obtain ⟨configured, ⟨document, rfl, parsed⟩, compiled⟩ := compiles
  obtain ⟨configuredToo, ⟨_, ⟨⟩, parsedToo⟩, compiledToo⟩ := compilesToo
  obtain rfl := Except.ok.inj (configuredToo.symm.trans configured)
  obtain rfl := Except.ok.inj (parsedToo.symm.trans parsed)
  exact ⟨rfl, rfl, Except.ok.inj (compiledToo.symm.trans compiled)⟩

/-- A response is the printed plan of a request that compiles. -/
theorem respond_eq_ok {folder document output : String} {top : Node} {pretty : Bool} :
    respond (loaded folder top) document pretty = .ok output ↔
      ∃ metadata request plan, Compiles folder top (.ok document) metadata request plan ∧
        output = String.join (plan.prepared.map (printed pretty)) := by
  simp only [respond, bind_eq_ok, pure_eq_ok, mapError_eq_ok]
  constructor
  · rintro ⟨metadata, configured, request, parsed, plan, compiled, rfl⟩
    exact ⟨metadata, request, plan, ⟨configured, ⟨document, rfl, parsed⟩, compiled⟩, rfl⟩
  · rintro ⟨metadata, request, plan, ⟨configured, ⟨_, ⟨⟩, parsed⟩, compiled⟩, rfl⟩
    exact ⟨metadata, configured, request, parsed, plan, compiled, rfl⟩

/-- What compiling prints is the plan of the request, and the directory stays as it is. -/
theorem exists_ending_run (folder : String) (source : Option String) (pretty : Bool)
    (given : Except FileError String) (top : Node) :
    ∃ outcome told, (run directoryStorage (pure given) folder (.compile source pretty)).ending []
        top = ((outcome, told), top) ∧
      ∀ output, outcome = .ok output ↔ ∃ metadata request plan,
        Compiles folder top (requestText given top source) metadata request plan ∧
          output = String.join (plan.prepared.map (printed pretty)) := by
  have ofText (wrap : FileError → Failure) :
      ∃ outcome told, (Job.operation wrap (fun top => (requestText given top source, top)) >>=
          fun document => compileText directoryStorage folder document pretty).ending [] top =
        ((outcome, told), top) ∧
      ∀ output, outcome = .ok output ↔ ∃ metadata request plan,
        Compiles folder top (requestText given top source) metadata request plan ∧
          output = String.join (plan.prepared.map (printed pretty)) := by
    rw [Job.ending_bind, Job.ending_operation]
    cases requestText given top source with
    | error e =>
      refine ⟨_, _, rfl, fun output => ⟨nofun, ?_⟩⟩
      rintro ⟨_, _, _, ⟨_, ⟨_, ⟨⟩, _⟩, _⟩, _⟩
    | ok document =>
      obtain ⟨told, ended⟩ := exists_ending_compileText folder document pretty top
      exact ⟨_, told, ended, fun output => respond_eq_ok⟩
  cases source with
  | none => exact ofText .file
  | some path => exact ofText (.requestUnread path)

/-- How the program ends when a command does. -/
def Ending.ofOutcome : Except Failure String → Ending
  | .ok output => ⟨0, output, ""⟩
  | .error e => ⟨1, "", e.message ++ "\n"⟩

/-- A program ends as its command does, with the result on the output or the reason on the error
output. -/
theorem program_of_ending {words : List String} {environment : Option String} {folder : String}
    {command : Command} {input : StateM Node (Except FileError String)} {top after : Node}
    {outcome : Except Failure String} {told : List Event}
    (asked : Invocation.parse words environment = some (.run folder command))
    (ended : (run directoryStorage input folder command).ending [] top =
      ((outcome, told), after)) :
    program directoryStorage input words environment top = (.ofOutcome outcome, after) := by
  have ran : (run directoryStorage input folder command).run.run [] top =
      ((outcome, told), after) := ended
  simp only [program, asked, bind, StateT.bind, ran]
  cases outcome <;> rfl

/-- The line feed is neither part of plain names nor of the places of templates, and rendering
itself does not write one. -/
theorem foreign_lineFeed : Foreign '\n' := ⟨rfl, by decide, by decide⟩

/-- No fixed word of a rendering has a line feed. -/
theorem fixedWords_oneLine : ∀ words ∈ fixedWords, Lacks '\n' words := by
  unfold Lacks
  decide

/-- The program compiles a request to lines from which its statements are read back, or fails
and prints nothing. It fails only if the text of the request is not there, the configuration is
not loaded, the text is no request, or the request does not compile. -/
theorem compile_frames_statements {words : List String} {environment : Option String}
    {folder : String} {source : Option String} {given : Except FileError String} {top : Node}
    (asked : Invocation.parse words environment = some (.run folder (.compile source false)))
    (oneLine : ∀ metadata, loaded folder top = .ok metadata → metadata.naming.Lacks '\n') :
    ∃ ending, program directoryStorage (pure given) words environment top = (ending, top) ∧
      ((∃ metadata request plan,
          Compiles folder top (requestText given top source) metadata request plan ∧
          request.HasStatements metadata plan.work.statements ∧
          ending.code = 0 ∧ Framed plan.prepared ending.output) ∨
        (¬ ∃ metadata request plan,
          Compiles folder top (requestText given top source) metadata request plan) ∧
          ending.code = 1 ∧ ending.output = "") := by
  obtain ⟨outcome, told, ended, result⟩ := exists_ending_run folder source false given top
  refine ⟨_, program_of_ending asked ended, ?_⟩
  cases outcome with
  | ok output =>
    obtain ⟨metadata, request, plan, compiles, rfl⟩ := (result output).mp rfl
    have lacks := lacks_of_compile foreign_lineFeed (by decide) fixedWords_oneLine
      (oneLine metadata compiles.configured) compiles.compiled
    exact Or.inl ⟨metadata, request, plan, compiles, hasStatements_of_compile compiles.compiled,
      rfl, framed_printed lacks⟩
  | error e =>
    refine Or.inr ⟨?_, rfl, rfl⟩
    rintro ⟨metadata, request, plan, compiles⟩
    exact absurd ((result _).mpr ⟨metadata, request, plan, compiles, rfl⟩) nofun

/-- A search for a note, by a text that breaks the line and has quotation marks. -/
def searchTornNote : Request where
  operation := some "query"
  domain := some "note"
  filters := some [("text", .text "first\n\"second\"\x00"), ("rankLt", .integer 5)]

/-- A search for a text with a line feed in it is printed in four lines and read back from them. -/
theorem tornNote_framed : ∃ ending plan,
    program directoryStorage (pure (.ok (Json.text searchTornNote.toValue))) ["compile"] none
      Node.empty = (ending, Node.empty) ∧
    ending.code = 0 ∧ (DomainSql.compile {} searchTornNote).outcome = .ok plan ∧
    ending.output.toList.count '\n' = 4 ∧
    readStatements? (ending.output.toList.splitOn '\n') = some plan.prepared := by
  have absent : loaded "." Node.empty = .ok {} := loaded_of_absent rfl
  have exact : searchTornNote.Exact := by
    refine ⟨?_, nofun, nofun⟩
    rintro _ ⟨⟩
    refine .mapping (by unfold Mapping.Unique; decide) ?_
    simp only [List.forall_mem_cons]
    exact ⟨.scalar trivial, .scalar ⟨by decide, by decide⟩, nofun⟩
  have parsed : Request.parse (Json.text searchTornNote.toValue) = .ok searchTornNote :=
    (recovers_request exact).parse_text (by decide)
  have oneLine : ∀ metadata, loaded "." Node.empty = .ok metadata →
      metadata.naming.Lacks '\n' := by
    intro metadata configured
    rw [absent] at configured
    cases configured
    constructor <;> (unfold Lacks; decide)
  obtain ⟨plan, compiled, two, exactArguments⟩ : ∃ plan,
      (DomainSql.compile {} searchTornNote).outcome = .ok plan ∧ plan.prepared.length = 2 ∧
        ∀ statement ∈ plan.prepared, ∀ value ∈ statement.arguments, value.Exact := by
    refine ⟨_, rfl, rfl, ?_⟩
    have both : Scalar.Exact (.text "first\n\"second\"\x00") ∧
        Scalar.Exact (.number (.integer 5)) := ⟨trivial, by decide, by decide⟩
    rintro statement (_ | ⟨_, _ | ⟨_, ⟨⟩⟩⟩) value (_ | ⟨_, _ | ⟨_, ⟨⟩⟩⟩)
    exacts [both.1, both.2, both.1, both.2]
  have compiles : Compiles "." Node.empty (requestText (.ok (Json.text searchTornNote.toValue))
      Node.empty none) {} searchTornNote plan := ⟨absent, ⟨_, rfl, parsed⟩, compiled⟩
  obtain ⟨ending, ended, framed⟩ := @compile_frames_statements ["compile"] none "." none
    (.ok (Json.text searchTornNote.toValue)) Node.empty (by decide +kernel) oneLine
  rcases framed with ⟨_, _, _, compilesToo, _, succeeded, framed⟩ | ⟨fails, _⟩
  · obtain ⟨rfl, rfl, rfl⟩ := compiles.unique compilesToo
    refine ⟨ending, _, ended, succeeded, compiled, ?_, framed.readBack exactArguments⟩
    rw [framed.counted, two]
  · exact absurd ⟨_, _, _, compiles⟩ fails

end CommandLine

end DomainSql
