import DomainSql.Configuration.Files
import DomainSql.Proofs.Directories
import DomainSql.Proofs.Json.Defaults

/-!
# Configurations survive their documents

A configuration is read back from the file that holds it and from its compact document, also
when settings that have their defaults are left out: single ones, or the naming, the paging
or the metadata as a whole. So a folder into which a configuration has been written loads
exactly when the configuration is valid, and fails for the reason that makes it invalid.
-/
namespace DomainSql

open Json

/-! ### Settings that are left out -/

/-- A text is no mapping that could be thinned, so it is read as it is. -/
theorem recovers_text_thinned {defaults : Value} (text : String) (less : Value)
    (thinned : Thinned defaults (.text text) less) : Recovers readText less text :=
  thinned.recovers (recovers_readText text)

/-- A truth value is read as it is, too. -/
theorem recovers_bool_thinned {defaults : Value} (b : Bool) (less : Value)
    (thinned : Thinned defaults (.bool b) less) : Recovers readBool less b :=
  thinned.recovers (recovers_readBool b)

/-- So is a whole number. -/
theorem recovers_word32_thinned {defaults : Value} (n : UInt32) (less : Value)
    (thinned : Thinned defaults (word32 n) less) : Recovers readWord32 less n :=
  thinned.recovers (recovers_readWord32 n)

/-- The naming is recovered from any of its settings that are not left out. -/
theorem Naming.recovers_thinned (naming : Naming) (less : Value)
    (thinned : Thinned (Naming.toValue {}) naming.toValue less) :
    Recovers (readRecord Naming.record) less naming := by
  obtain ⟨entries, rfl, keys, _⟩ := Thinned.exists_entries thinned
  have single : ["tableFormat", "joinTableFormat", "joinIdFormat", "idColumn",
    "mapCamelCaseToUnderscore"].Nodup := by decide
  refine recovers_readRecord (Settles.fills ?_ thinned) (keys.nodup single) (List.nil_subset _)
  -- A field that has not been read yet still has its default in the draft.
  refine Settles.default "tableFormat" Value.text rfl rfl rfl rfl recovers_text_thinned ?_
  refine Settles.default "joinTableFormat" Value.text rfl rfl rfl rfl recovers_text_thinned ?_
  refine Settles.default "joinIdFormat" Value.text rfl rfl rfl rfl recovers_text_thinned ?_
  refine Settles.default "idColumn" Value.text rfl rfl rfl rfl recovers_text_thinned ?_
  refine Settles.default "mapCamelCaseToUnderscore" Value.bool rfl rfl rfl rfl
    recovers_bool_thinned ?_
  exact Settles.nil naming

/-- The paging is recovered from any of its settings that are not left out. -/
theorem Paging.recovers_thinned (paging : Paging) (less : Value)
    (thinned : Thinned (Paging.toValue {}) paging.toValue less) :
    Recovers (readRecord Paging.record) less paging := by
  obtain ⟨entries, rfl, keys, _⟩ := Thinned.exists_entries thinned
  have single : ["defaultPageSize", "startPageNumberFromOne"].Nodup := by decide
  refine recovers_readRecord (Settles.fills ?_ thinned) (keys.nodup single) (List.nil_subset _)
  refine Settles.default "defaultPageSize" word32 rfl rfl rfl rfl recovers_word32_thinned ?_
  refine Settles.default "startPageNumberFromOne" Value.bool rfl rfl rfl rfl
    recovers_bool_thinned ?_
  exact Settles.nil paging

/-- The metadata is recovered from what is not left out of it. -/
theorem Metadata.recovers_thinned (metadata : Metadata) (less : Value)
    (thinned : Thinned (Metadata.toValue {}) metadata.toValue less) :
    Recovers (readRecord Metadata.record) less metadata := by
  obtain ⟨entries, rfl, keys, _⟩ := Thinned.exists_entries thinned
  have single : ["naming", "paging"].Nodup := by decide
  refine recovers_readRecord (Settles.fills ?_ thinned) (keys.nodup single) (List.nil_subset _)
  refine Settles.default "naming" Naming.toValue rfl rfl rfl rfl Naming.recovers_thinned ?_
  refine Settles.default "paging" Paging.toValue rfl rfl rfl rfl Paging.recovers_thinned ?_
  exact Settles.nil metadata

namespace Configuration

/-- The entries of a configuration that have a default. -/
def defaults : Mapping := [("metadata", Metadata.toValue {})]

/-- A version is read back from its name. -/
theorem recovers_version (version : Version) :
    Recovers Version.read (.text version.name) version := by
  intro s level levels _
  refine reads_readPart fun rest _ => ?_
  simp only [spaced, writeScalar, quote_append, readQuotation_written, ok_bind]
  cases version
  rfl

/-- A configuration is recovered from what is not left out of it. -/
theorem recovers_thinned (configuration : Configuration) (less : Value)
    (thinned : Thinned (.mapping defaults) configuration.toValue less) :
    Recovers (readRecord record) less configuration := by
  obtain ⟨entries, rfl, keys, stay⟩ := Thinned.exists_entries thinned
  have complete : record.needs ⊆ Mapping.keys entries := by
    intro name needed
    obtain rfl : name = "version" := List.mem_singleton.mp needed
    exact stay "version" List.mem_cons_self rfl
  have metadata : Settles record defaults
      { version := configuration.version, schema := configuration.schema }
      [("metadata", configuration.metadata.toValue)] configuration :=
    Settles.default "metadata" Metadata.toValue rfl rfl rfl rfl Metadata.recovers_thinned
      (Settles.nil _)
  have schema : Settles record defaults { version := configuration.version }
      (entryOf? "$schema" Value.text configuration.schema ++
        [("metadata", configuration.metadata.toValue)]) configuration :=
    Settles.entryOf? rfl rfl rfl rfl nofun (fun text _ => recovers_readText text) metadata
  have settles : Settles record defaults {} (("version", .text configuration.version.name) ::
      (entryOf? "$schema" Value.text configuration.schema ++
        [("metadata", configuration.metadata.toValue)])) configuration :=
    Settles.field rfl (Or.inr rfl) rfl rfl (recovers_version configuration.version) schema
  have front : (Mapping.keys [("version", .text configuration.version.name)]).Sublist ["version"] :=
    List.Sublist.refl _
  have behind : (Mapping.keys [("metadata", configuration.metadata.toValue)]).Sublist
    ["metadata"] := List.Sublist.refl _
  have names := keys_append_sublist (keys_append_sublist front
    (keys_entryOf? "$schema" Value.text configuration.schema)) behind
  exact recovers_readRecord (settles.fills thinned) ((keys.trans names).nodup (by decide)) complete

/-- A configuration is read back from what is not left out of it, in a file and as a compact
text. -/
theorem parse_thinned {configuration : Configuration} {less : Value}
    (thinned : Thinned (.mapping defaults) configuration.toValue less) :
    Configuration.parse (fileText less) = .ok configuration ∧
      Configuration.parse (Json.text less) = .ok configuration := by
  have recovers := recovers_thinned configuration less thinned
  have full : configuration.toValue.nesting ≤ maximalNesting := by
    rcases configuration with ⟨_, _ | _, _⟩ <;> exact Nat.le_of_ble_eq_true rfl
  have shallow : less.nesting ≤ maximalNesting := Nat.le_trans thinned.nesting_le full
  refine ⟨?_, recovers.parse_text shallow⟩
  have blank : Blank ['\n'] := fun c inside => by rw [List.mem_singleton.mp inside]; rfl
  have whole := recovers.parse shallow .lines blank
  rw [← indented_eq, String.ofList_append] at whole
  exact whole

/-! ### Loading -/

section
variable {folder text : String} {configuration : Configuration} {top : Node}
  (read : top.readPath (pathIn folder fileName) = .ok text)
  (parsed : Configuration.parse text = .ok configuration)
include read parsed

/-- Where the file loads, reading the configuration of a folder ends with it and tells where it was
read. The directory is left as it is. -/
theorem ending_readFrom : (readFrom directoryStorage folder).ending [] top =
    ((.ok configuration, [.configurationRead (pathIn folder fileName)]), top) := by
  have content : directoryStorage.readText (pathIn folder fileName) top = (.ok text, top) :=
    congrArg (·, top) read
  rw [readFrom, Job.ending_bind, Job.ending_operation, content]
  simp only [Except.mapError, parsed]
  rfl

/-- A folder whose file is read as a configuration loads exactly when that is valid, and
tells that it has been read. -/
theorem ending_load : (load directoryStorage folder).ending [] top =
    ((configuration.validate.mapError .invalid, [.configurationRead (pathIn folder fileName)]),
      top) := by
  have there : directoryStorage.pathExists (pathIn folder fileName) top = (.ok true, top) :=
    congrArg (·, top) (Node.hasPath_of_readPath read)
  rw [load, Job.ending_bind, Job.ending_operation, there]
  simp only [Except.mapError, if_true]
  rw [Job.ending_bind, Job.ending_part, ending_readFrom read parsed]
  simp only [Except.mapError]
  cases configuration.validate <;> rfl

end

/-- The file of a configuration lies directly in its folder. -/
theorem plainName_fileName : PlainName fileName := by unfold PlainName; decide

/-- So does the file of its schema. -/
theorem plainName_schemaFileName : PlainName schemaFileName := by unfold PlainName; decide

/-- The schema is written beside the configuration, which stays. -/
theorem readPath_beside_schema {folder text : String} {content : Option String} {top after : Node}
    (read : top.readPath (pathIn folder fileName) = .ok text)
    (written : top.writePath content (pathIn folder schemaFileName) = .ok after) :
    after.readPath (pathIn folder fileName) = .ok text :=
  Node.readPath_of_writePath_beside plainName_schemaFileName plainName_fileName (by decide) written
    read

/-- After a configuration has been written into a folder, its file holds its text. -/
theorem readPath_of_writeTo {folder : String} {configuration : Configuration} {top after : Node}
    {told : List Event}
    (written : (writeTo directoryStorage folder configuration).ending [] top =
      ((.ok (), told), after)) :
    after.readPath (pathIn folder fileName) = .ok (fileText configuration.toValue) := by
  obtain ⟨_, _, made, created, written⟩ := Job.ending_bind_eq_ok.mp written
  obtain ⟨_, _, first, stored, beside⟩ := Job.ending_bind_eq_ok.mp written
  have stored := changeDirectory_eq_ok.mp (Job.ending_operation_eq_ok.mp stored).1
  have beside := changeDirectory_eq_ok.mp (Job.ending_operation_eq_ok.mp beside).1
  exact readPath_beside_schema (Node.readPath_of_writePath stored) beside

/-- A configuration is read back from its file and from its compact text, whichever settings
with their defaults are left out, and a folder that holds such a text loads exactly when the
configuration is valid. So does a folder into which the configuration has been written. -/
theorem documents_load (configuration : Configuration) :
    (∀ less, Thinned (.mapping defaults) configuration.toValue less →
      Configuration.parse (fileText less) = .ok configuration ∧
      Configuration.parse (Json.text less) = .ok configuration ∧
      ∀ (folder text : String) (top : Node), text = fileText less ∨ text = Json.text less →
        top.readPath (pathIn folder fileName) = .ok text →
        (load directoryStorage folder).ending [] top =
          ((configuration.validate.mapError .invalid,
            [.configurationRead (pathIn folder fileName)]), top)) ∧
    ∀ (folder : String) (top after : Node) (told : List Event),
      (writeTo directoryStorage folder configuration).ending [] top = ((.ok (), told), after) →
      after.readPath (pathIn folder fileName) = .ok (fileText configuration.toValue) ∧
      (load directoryStorage folder).ending [] after =
        ((configuration.validate.mapError .invalid,
          [.configurationRead (pathIn folder fileName)]), after) := by
  refine ⟨fun less thinned => ?_, fun folder top after told written => ?_⟩
  · obtain ⟨file, compact⟩ := parse_thinned thinned
    refine ⟨file, compact, fun folder text top document read => ?_⟩
    rcases document with rfl | rfl
    · exact ending_load read file
    · exact ending_load read compact
  · have read := readPath_of_writeTo written
    exact ⟨read, ending_load read (parse_thinned (Thinned.whole _ _)).1⟩

/-- A configuration that is not valid, with a template whose characters have to be escaped. -/
def quotedTables : Configuration where
  metadata := { naming := { tableFormat := "\"\x7b\x7d\\\n", idColumn := " " } }

/-- What is left of it when no setting with its default stays. -/
def quotedTablesDocument : Value :=
  .mapping [("version", .text "1"), ("metadata", .mapping [("naming", .mapping
    [("tableFormat", .text "\"\x7b\x7d\\\n"), ("idColumn", .text " ")])])]

/-- The document leaves out only what is as by default. -/
theorem quotedTables_thinned :
    Thinned (.mapping defaults) quotedTables.toValue quotedTablesDocument :=
  .kept (.thinned rfl (.thinned rfl
    (.kept (.removed rfl (.removed rfl (.kept (.removed rfl (.whole _ _))))))
    (.removed rfl (.whole _ _))) (.whole _ _))

/-- A document with escapes that leaves much out stands for its configuration, also where the
configuration is refused in the end: what is read is decided apart from whether it is valid. -/
theorem quotedTables_load :
    Thinned (.mapping defaults) quotedTables.toValue quotedTablesDocument ∧
      Configuration.parse (fileText quotedTablesDocument) = .ok quotedTables ∧
      ∃ told after, (writeTo directoryStorage "a/b" quotedTables).ending [] Node.empty =
          ((.ok (), told), after) ∧
        (load directoryStorage "a/b").ending [] after =
          ((.error (.invalid .emptyIdColumn), [.configurationRead "a/b/configuration.json"]),
            after) := by
  have written : ∃ told after, (writeTo directoryStorage "a/b" quotedTables).ending [] Node.empty =
      ((.ok (), told), after) := ⟨_, _, rfl⟩
  obtain ⟨told, after, written⟩ := written
  have loaded := ((documents_load quotedTables).2 "a/b" Node.empty after told written).2
  exact ⟨quotedTables_thinned, ((documents_load quotedTables).1 _ quotedTables_thinned).1,
    told, after, written, loaded⟩

end Configuration

end DomainSql
