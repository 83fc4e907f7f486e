import SchemaPress.Proofs.CommandLine.Exporting
import SchemaPress.Proofs.Files.Touching

/-!
# How exports end

An export that cannot load its settings or its schema ends there, and nothing has changed. When some
formats are written one after another, all of them are written, or those before the first one that
is refused (`exists_written_split`): one in which the schema cannot be exported, or whose file
cannot be written. That format ends the run, whatever formats are behind it, and nothing but
directories has been made since the formats before it were written (`writeEach_of_isRefused`).
-/

set_option autoImplicit false

namespace SchemaPress.CommandLine

open FileTree (bind_run MakesDirectory)

variable {config directory path : String} {request : ExportRequest} {settings : Settings}
  {schema : Schema} {format : Format} {result : Export} {tree made after : FileTree}

/-- Says that an outcome is that of a run which fails. -/
structure Outcome.IsFailure (outcome : Outcome) : Prop where
  exit : outcome.exit ≠ 0
  stdout : outcome.stdout = ""

/-- A run whose failure is reported fails. -/
theorem isFailure_ofFailure (failure : Failure) : (Outcome.ofFailure failure).IsFailure :=
  ⟨Nat.one_ne_zero, rfl⟩

/-- So does a run that breaks off. -/
theorem isFailure_ofTrouble (trouble : Trouble) : (Outcome.ofTrouble trouble).IsFailure := by
  cases trouble with
  | failed failure => exact isFailure_ofFailure failure
  | broken failure => exact ⟨(by decide : 101 ≠ 0), rfl⟩

/-- What has been written before does not make a failure less of one. -/
theorem Outcome.IsFailure.behind {outcome : Outcome} (fails : outcome.IsFailure)
    (notices : List Notice) : (outcome.behind notices).IsFailure :=
  ⟨fails.exit, fails.stdout⟩

/-- A failure is one at every level of the log. -/
theorem Outcome.IsFailure.upTo {outcome : Outcome} (fails : outcome.IsFailure)
    (most : LogLevel) : (outcome.upTo most).IsFailure :=
  ⟨fails.exit, fails.stdout⟩

/-! ## Exports that load nothing -/

/-- Settings that cannot be loaded end an export at once. -/
theorem runExport_of_settings_error {failure : Failure}
    (error : ((loadSettings config : StateM FileTree _) tree).1 = .error failure) :
    (runExport config request : StateM FileTree _) tree = (.ofFailure failure, tree) := by
  rw [runExport, bind_run, openSettings_run, error]
  rfl

/-- A schema that cannot be loaded ends an export behind what is logged about the settings. -/
theorem runExport_of_schema_error {failure : Failure}
    (loaded : ((loadSettings config : StateM FileTree _) tree).1 = .ok settings)
    (error : ((loadSchema request.schema : StateM FileTree _) tree).1 = .error failure) :
    (runExport config request : StateM FileTree _) tree =
      ((Outcome.ofFailure failure).behind ((tree.settingsLog config).map .logged), tree) := by
  rw [runExport_of_settings loaded, exportUnder, bind_run, openSchema_run, error]
  rfl

/-- Where the settings or the schema cannot be loaded, an export fails and changes nothing. -/
theorem runExport_of_load_error {failure : Failure}
    (error : ((loadSettings config : StateM FileTree _) tree).1 = .error failure ∨
      ((loadSchema request.schema : StateM FileTree _) tree).1 = .error failure) :
    ∃ outcome : Outcome, outcome.IsFailure ∧
      (runExport config request : StateM FileTree _) tree = (outcome, tree) := by
  cases loaded : ((loadSettings config : StateM FileTree _) tree).1 with
  | error other =>
    exact ⟨_, isFailure_ofFailure other, runExport_of_settings_error loaded⟩
  | ok settings =>
    rcases error with error | error
    · rw [loaded] at error
      cases error
    · exact ⟨_, (isFailure_ofFailure failure).behind _, runExport_of_schema_error loaded error⟩

/-- An export that succeeds has loaded settings and a schema. -/
theorem exists_loads_of_exit
    (done : ((runExport config request : StateM FileTree _) tree).1.exit = 0) :
    ∃ settings schema, Loads tree config request.schema settings schema := by
  have fails {failure : Failure}
      (error : ((loadSettings config : StateM FileTree _) tree).1 = .error failure ∨
        ((loadSchema request.schema : StateM FileTree _) tree).1 = .error failure) : False := by
    obtain ⟨outcome, failed, ran⟩ := runExport_of_load_error error
    rw [ran] at done
    exact failed.exit done
  cases first : ((loadSettings config : StateM FileTree _) tree).1 with
  | error failure => exact (fails (.inl first)).elim
  | ok settings =>
    cases second : ((loadSchema request.schema : StateM FileTree _) tree).1 with
    | error failure => exact (fails (.inr second)).elim
    | ok schema => exact ⟨settings, schema, first, second⟩

/-- Where the directory of all formats cannot be made, an export fails and writes no file. -/
theorem runExport_of_directory_error {error : FileError}
    (loads : Loads tree config request.schema settings schema) (all : request.all = true)
    (outDir : request.outDir = some directory)
    (refused : (Files.makeDirectories directory : StateM FileTree _) tree = (.error error, made)) :
    ∃ outcome : Outcome, outcome.IsFailure ∧
      (runExport config request : StateM FileTree _) tree = (outcome, made) := by
  have fails := isFailure_ofFailure ⟨"create output dir " ++ directory, some error.message⟩
  rw [runExport_of_loads loads, writeRequested_of_all all outDir, writeAll, bind_run, refused]
  exact ⟨_, fails.behind _, rfl⟩

/-! ## Formats that are refused -/

/-- A schema that cannot be exported is not rendered. -/
theorem rendered_of_error (context : String) {failure : ExportFailure}
    (error : schema.exportAs settings format = .error failure) :
    ∃ trouble, rendered settings schema context format = .error trouble := by
  rw [rendered, error]
  cases failure with
  | unsupportedFormat name => exact ⟨_, rfl⟩
  | fieldTooWide width => exact ⟨_, rfl⟩

/-- Where a file cannot be written, only directories may have been made. -/
theorem writeExport_of_error {error : FileError}
    (refused : tree.withTexts [(path, result.text)] = .error error) :
    ∃ failure after, (writeExport path result : StateM FileTree _) tree = (.error failure, after) ∧
      Relation.ReflTransGen MakesDirectory tree after := by
  have directories := FileTree.onlyMakes_makeDirectories ((Files.parent? path).getD "") tree
  rw [FileTree.withTexts] at refused
  rw [writeExport, bind_run]
  cases around :
    (Files.makeDirectories ((Files.parent? path).getD "") : StateM FileTree _) tree with
  | mk answer made =>
    rw [around] at refused directories
    cases answer with
    | error other => exact ⟨_, made, rfl, directories⟩
    | ok done =>
      change ∃ failure after, ((Files.write path result.text >>= _ : StateM FileTree _) made) =
        (Except.error failure, after) ∧ _
      change (made.write path result.text >>= FileTree.withTexts []) = _ at refused
      cases wrote : made.write path result.text with
      | ok written =>
        rw [wrote] at refused
        cases refused
      | error other =>
        rw [bind_run, FileTree.write_run_error wrote]
        exact ⟨_, made, rfl, directories⟩

/-- Says that a format is not written into a directory: the schema cannot be exported in it, or its
file cannot be written. -/
def IsRefused (settings : Settings) (schema : Schema) (directory : String) (format : Format)
    (tree : FileTree) : Prop :=
  (∃ failure, schema.exportAs settings format = .error failure) ∨
    ∃ result error, schema.exportAs settings format = .ok result ∧
      tree.withTexts [(Files.inside directory (fileName format), result.text)] = .error error

/-- A format that is refused ends the run, whatever formats are behind it, and only directories may
have been made. -/
theorem writeEach_of_isRefused (refused : IsRefused settings schema directory format tree) :
    ∃ (outcome : Outcome) (after : FileTree), outcome.IsFailure ∧
      Relation.ReflTransGen MakesDirectory tree after ∧
      ∀ others, (writeEach settings schema directory (format :: others) : StateM FileTree _) tree =
        (outcome, after) := by
  rcases refused with ⟨failure, error⟩ | ⟨result, error, exported, refused⟩
  · obtain ⟨trouble, fails⟩ := rendered_of_error ("export as " ++ format.word) error
    refine ⟨_, tree, isFailure_ofTrouble trouble, .refl, fun others => ?_⟩
    rw [writeEach, fails]
    rfl
  · obtain ⟨failure, after, ran, makes⟩ := writeExport_of_error refused
    have fails := (isFailure_ofFailure failure).behind [renderedNotice schema result]
    refine ⟨_, after, fails, makes, fun others => ?_⟩
    rw [writeEach, rendered_of_exportAs _ exported]
    change ((writeExport (Files.inside directory (fileName format)) result >>= _ :
      StateM FileTree _) tree) = _
    rw [bind_run, ran]
    rfl

/-- A format is refused, or it is written. -/
theorem isRefused_or_written (settings : Settings) (schema : Schema) (directory : String)
    (format : Format) (tree : FileTree) :
    IsRefused settings schema directory format tree ∨
      ∃ result after, schema.exportAs settings format = .ok result ∧
        tree.withTexts [(Files.inside directory (fileName format), result.text)] = .ok after := by
  cases exported : schema.exportAs settings format with
  | error failure => exact .inl (.inl ⟨failure, exported⟩)
  | ok result =>
    cases wrote : tree.withTexts [(Files.inside directory (fileName format), result.text)] with
    | error error => exact .inl (.inr ⟨result, error, exported, wrote⟩)
    | ok after => exact .inr ⟨result, after, rfl, wrote⟩

/-- The exports of a schema, where there are any, are those that some function gives. -/
theorem exists_results (settings : Settings) (schema : Schema) : ∃ results : Format → Export,
    ∀ format result, schema.exportAs settings format = .ok result → result = results format := by
  refine ⟨fun format => (schema.exportAs settings format).toOption.getD default, ?_⟩
  intro format result exported
  change result = (schema.exportAs settings format).toOption.getD default
  rw [exported]
  rfl

/-- Of some formats all are written, or those before the first one that is refused. -/
theorem exists_written_split (settings : Settings) (schema : Schema) (directory : String)
    {results : Format → Export}
    (known : ∀ format result, schema.exportAs settings format = .ok result →
      result = results format) (formats : List Format) (tree : FileTree) :
    ∃ done rest written, formats = done ++ rest ∧
      (∀ format ∈ done, schema.exportAs settings format = .ok (results format)) ∧
      tree.withTexts (formatFiles directory results done) = .ok written ∧
      ∀ refused ∈ rest.head?, IsRefused settings schema directory refused written := by
  -- The tree changes from format to format: whether one is refused is asked where the ones before
  -- it have been written.
  induction formats generalizing tree with
  | nil => exact ⟨[], [], tree, rfl, List.forall_mem_nil _, rfl, fun _ none => by cases none⟩
  | cons format formats ih =>
    rcases isRefused_or_written settings schema directory format tree with
      refused | ⟨result, first, exported, wrote⟩
    · refine ⟨[], format :: formats, tree, rfl, List.forall_mem_nil _, rfl, fun other here => ?_⟩
      obtain rfl := Option.some.inj here
      exact refused
    · obtain ⟨done, rest, written, rfl, exports, others, ending⟩ := ih first
      obtain rfl := known format result exported
      obtain ⟨made, now, around, here, last⟩ := (FileTree.withTexts_cons_eq_ok _ _).mp wrote
      obtain rfl : now = first := Except.ok.inj last
      exact ⟨format :: done, rest, written, rfl, List.forall_mem_cons.mpr ⟨exported, exports⟩,
        (FileTree.withTexts_cons_eq_ok _ _).mpr ⟨made, now, around, here, others⟩, ending⟩

end SchemaPress.CommandLine
