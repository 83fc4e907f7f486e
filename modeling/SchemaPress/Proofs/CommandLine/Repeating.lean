import SchemaPress.Proofs.CommandLine.Ending
import SchemaPress.Proofs.ExportEquality
import SchemaPress.Proofs.Files.Repeating

/-!
# Writing all formats twice

A run that has written all formats into a directory can be repeated at once: it says the same, to
the last entry of its log, and nothing changes (`export_all_again`). Only the settings must not have
been touched. The schema may
have been: the one file that a run can write over the file of its own schema is that of the
canonical form, and from there the schema is read as an equal one, which is exported alike.
-/

set_option autoImplicit false

namespace SchemaPress.CommandLine

open FileTree (bind_run)

variable {arguments : List String} {config directory path : String} {request : ExportRequest}
  {settings : Settings} {schema : Schema} {results : Format → Export}
  {tree made after : FileTree}

/-! ## The schema of the second run -/

/-- A file that is called like that of a format has its extension. -/
theorem extension?_of_isNamed {format : Format}
    (named : Files.IsNamed path (fileName format).toList) :
    Files.extension? path = some format.extension := by
  rw [Files.extension?, named.name?]
  cases format <;> decide

/-- A schema can be loaded from a file that is called like that of a format only if the format is
that of the canonical form. -/
theorem format_eq_json {format : Format} {text : String}
    (extension : Files.extension? path = some format.extension)
    (loaded : Schema.ofFile path text = .ok schema) : format = .json := by
  rw [Schema.ofFile, extension] at loaded
  cases format with
  | json => rfl
  | postgresql | mysql | prisma | drizzle => cases loaded

/-- The text in JSON is the canonical form. -/
theorem text_of_exportAs_json {result : Export}
    (exported : schema.exportAs settings .json = .ok result) : result.text = schema.canonical := by
  rw [← Except.ok.inj exported]
  rfl

/-- Says that nothing in the log of an export tells two schemas apart. -/
structure LogAlike (schema other : Schema) : Prop where
  loaded : ∀ path, loadedEntry path other = loadedEntry path schema
  rendered : ∀ result, renderedNotice other result = renderedNotice schema result

theorem LogAlike.refl (schema : Schema) : LogAlike schema schema :=
  ⟨fun _ => rfl, fun _ => rfl⟩

/-- A schema has as many tables and relationships in its normal form, and no more is logged. -/
theorem logAlike_normal (schema : Schema) : LogAlike schema schema.normal := by
  have tables : schema.normal.tables.length = schema.tables.length := by
    simp [Schema.normal]
  have relationships : schema.normal.relationships.length = schema.relationships.length := by
    simp [Schema.normal]
  constructor
  · intro path
    rw [loadedEntry, tables, relationships, loadedEntry]
  · intro result
    rw [renderedNotice, tables, relationships, renderedNotice]

/-- After all formats have been written, the schema is loaded from its path as one that is exported
alike. -/
theorem loadSchema_again
    (loaded : ((loadSchema path : StateM FileTree _) tree).1 = .ok schema)
    (exported : ∀ format, schema.exportAs settings format = .ok (results format))
    (grows : FileTree.Grows tree made)
    (wrote : made.withTexts (formatFiles directory results Format.all) = .ok after) :
    ∃ again, ((loadSchema path : StateM FileTree _) after).1 = .ok again ∧ LogAlike schema again ∧
      ∀ format, again.exportAs settings format = .ok (results format) := by
  cases held : tree.read path with
  | error error =>
    rw [loadSchema_run, held] at loaded
    cases loaded
  | ok text =>
    rw [loadSchema_of_read held] at loaded
    have still : made.read path = .ok text := FileTree.read_of_grows grows held
    obtain ⟨around, name, leads, named⟩ := FileTree.isNamed_of_read still
    rcases FileTree.read_withTexts_cases wrote leads still with same | ⟨file, here, there⟩
    · exact ⟨schema, (loadSchema_of_read same).trans loaded, .refl schema, exported⟩
    · -- The schema stands in one of the files that have been written.
      obtain ⟨format, mem, rfl⟩ := List.mem_map.mp here
      obtain ⟨around', place⟩ := FileTree.spot_name (isNamed_inside_fileName directory format) there
      have calls : name = (fileName format).toList :=
        (List.cons_eq_cons.mp (List.append_inj' place rfl).2).1
      have extension := extension?_of_isNamed (calls ▸ named)
      obtain rfl := format_eq_json extension loaded
      have written := read_formatFiles (by decide) wrote .json mem
      rw [text_of_exportAs_json (exported .json)] at written
      obtain ⟨spot, found, entry, -⟩ := FileTree.read_eq_ok_iff.mp written
      obtain rfl : spot = around ++ [name] := Except.ok.inj (found.symm.trans there)
      obtain ⟨-, -, -, slash⟩ := FileTree.read_eq_ok_iff.mp held
      have read : after.read path = .ok schema.canonical :=
        FileTree.read_eq_ok_iff.mpr
          ⟨_, FileTree.spotOf_of_keeps (FileTree.keeps_withTexts wrote) leads, entry, slash⟩
      have json : (Files.extension? path).bind Notation.ofExtension? = some .json := by
        rw [extension]
        rfl
      refine ⟨schema.normal, loadSchema_of_json json read schema.ofJson_canonical,
        logAlike_normal schema, fun format => ?_⟩
      rw [Schema.exportAs_normal]
      exact exported format

/-! ## The run -/

/-- What a run that writes all formats has done, if it succeeds. -/
theorem exists_written_of_exit (loads : Loads tree config request.schema settings schema)
    (all : request.all = true) (outDir : request.outDir = some directory)
    (done : ((runExport config request : StateM FileTree _) tree).1.exit = 0) :
    ∃ results made after,
      (Files.makeDirectories directory : StateM FileTree _) tree = (.ok (), made) ∧
      (∀ format, schema.exportAs settings format = .ok (results format)) ∧
      made.withTexts (formatFiles directory results Format.all) = .ok after := by
  cases directories : (Files.makeDirectories directory : StateM FileTree _) tree with
  | mk answer made =>
    cases answer with
    | error error =>
      obtain ⟨failing, fails, ends⟩ := runExport_of_directory_error loads all outDir directories
      rw [ends] at done
      exact absurd done fails.exit
    | ok _ =>
      obtain ⟨results, known⟩ := exists_results settings schema
      obtain ⟨formats, rest, after, split, exported, wrote, ending⟩ :=
        exists_written_split settings schema directory known Format.all made
      rw [runExport_of_all loads all outDir directories, split,
        writeEach_append _ exported wrote] at done
      change
        ((writeEach settings schema directory rest : StateM FileTree _) after).1.exit = 0 at done
      cases rest with
      | nil =>
        rw [List.append_nil] at split
        rw [← split] at exported wrote
        have all (format : Format) : format ∈ Format.all := by cases format <;> decide
        exact ⟨results, made, after, rfl, fun format => exported format (all format), wrote⟩
      | cons refused others =>
        -- A format that is refused makes the run fail.
        obtain ⟨failing, last, fails, -, ends⟩ := writeEach_of_isRefused (ending refused rfl)
        rw [ends] at done
        exact absurd done fails.exit

/-- What is told and logged by a run that writes all formats. -/
def writtenNotices (tree : FileTree) (config path directory : String) (schema : Schema)
    (results : Format → Export) : List Notice :=
  (loadingLog tree config path schema).map .logged
    ++ formatNotices schema directory results Format.all

/-- A run that can write all formats does so, and tells and logs just that. -/
theorem runExport_of_written (loads : Loads tree config request.schema settings schema)
    (all : request.all = true) (outDir : request.outDir = some directory)
    (directories : (Files.makeDirectories directory : StateM FileTree _) tree = (.ok (), made))
    (exported : ∀ format, schema.exportAs settings format = .ok (results format))
    (wrote : made.withTexts (formatFiles directory results Format.all) = .ok after) :
    (runExport config request : StateM FileTree _) tree =
      ({ notices := writtenNotices tree config request.schema directory schema results },
        after) := by
  have written := writeEach_append [] (fun format _ => exported format) wrote
  rw [List.append_nil] at written
  rw [runExport_of_all loads all outDir directories, written, Prod.map_map,
    Outcome.behind_comp_behind]
  change (Outcome.behind _ {}, after) = _
  simp [Outcome.behind, writtenNotices]

/-- What is written of the same schema under the same settings is told and logged alike. -/
theorem writtenNotices_again {again : Schema}
    (settled : (after.entry config).toOption = (tree.entry config).toOption)
    (alike : LogAlike schema again) :
    writtenNotices after config path directory again results =
      writtenNotices tree config path directory schema results := by
  simp only [writtenNotices, loadingLog, formatNotices, settingsLog_of_entry settled, alike.loaded,
    alike.rendered]

/-- A run that writes all formats into a directory and that leaves alone what there is at the path
of the settings can be repeated at once: it does nothing more, and says the same. -/
theorem runExport_again (all : request.all = true) (outDir : request.outDir = some directory)
    (done : ((runExport config request : StateM FileTree _) tree).1.exit = 0)
    (settled : (((runExport config request : StateM FileTree _) tree).2.entry config).toOption =
      (tree.entry config).toOption) :
    (runExport config request : StateM FileTree _)
        ((runExport config request : StateM FileTree _) tree).2 =
      (runExport config request : StateM FileTree _) tree := by
  obtain ⟨settings, schema, loads⟩ := exists_loads_of_exit done
  obtain ⟨results, made, after, directories, exported, wrote⟩ :=
    exists_written_of_exit loads all outDir done
  have first := runExport_of_written loads all outDir directories exported wrote
  rw [first] at settled ⊢
  -- The second run may load another schema, but it exports the same, and that is there already.
  obtain ⟨again, loaded, logAlike, alike⟩ := loadSchema_again loads.schema exported
    (FileTree.grows_of_makeDirectories directories) wrote
  have loads' : Loads after config request.schema settings again :=
    ⟨(loadSettings_of_entry settled).trans loads.settings, loaded⟩
  have keeps : FileTree.Keeps made after := FileTree.keeps_withTexts wrote
  have held : ∀ file ∈ formatFiles directory results Format.all,
      after.read file.1 = .ok file.2 := by
    intro file here
    obtain ⟨format, mem, rfl⟩ := List.mem_map.mp here
    exact read_formatFiles (by decide) wrote format mem
  rw [runExport_of_written loads' all outDir (FileTree.makeDirectories_again directories keeps)
    alike (FileTree.withTexts_again wrote (fun _ here => here) held),
    writtenNotices_again settled logAlike]

/-- An export of all formats into a directory that succeeds, and that neither creates nor changes
anything at the path of the settings, can be repeated at once: it succeeds again, says the same and
changes nothing, even where it has replaced its own schema. -/
theorem export_all_again
    (asks : Asks arguments config { schema := path, all := true, outDir := some directory })
    (done : ((run arguments : StateM FileTree _) tree).1.exit = 0)
    (settled : (((run arguments : StateM FileTree _) tree).2.entry config).toOption =
      (tree.entry config).toOption) :
    (run arguments : StateM FileTree _) ((run arguments : StateM FileTree _) tree).2 =
      (run arguments : StateM FileTree _) tree := by
  obtain ⟨most, ran⟩ := run_of_asks asks
  rw [ran] at done settled ⊢
  rw [ran]
  exact congrArg (Prod.map (Outcome.upTo most) id) (runExport_again rfl rfl done settled)

/-- The run that replaces its own schema by the canonical form, repeated. -/
theorem export_all_again_own_input :
    let value : Json.Value := .record [("tables", .list []), ("name", .text "shop")]
    let file : FileTree.Spot := ["out".toList, "schema.json".toList]
    let tree : FileTree := ⟨[(["out".toList], .directory), (file, .text value.pretty)]⟩
    ∃ outcome after,
      (run ["export", "out/schema.json", "--all", "--out-dir", "out"] : StateM FileTree _) tree =
        (outcome, after) ∧
      outcome.exit = 0 ∧ after.read "out/schema.json" ≠ tree.read "out/schema.json" ∧
      (run ["export", "out/schema.json", "--all", "--out-dir", "out"] : StateM FileTree _) after =
        (outcome, after) := by
  intro value file tree
  have asks : Asks ["export", "out/schema.json", "--all", "--out-dir", "out"] standardConfig
      { schema := "out/schema.json", all := true, outDir := some "out" } :=
    @asks_exportArguments { schema := "out/schema.json", all := true, outDir := some "out" }
      { schema := by decide, out := by simp, outDir := by simp; decide, all := by simp }
  have done : ((run ["export", "out/schema.json", "--all", "--out-dir", "out"] :
      StateM FileTree _) tree).1.exit = 0 := by
    decide +kernel +zetaReduce
  have settled : (((run ["export", "out/schema.json", "--all", "--out-dir", "out"] :
      StateM FileTree _) tree).2.entry standardConfig).toOption =
      (tree.entry standardConfig).toOption := by
    decide +kernel +zetaReduce
  have replaced : ((run ["export", "out/schema.json", "--all", "--out-dir", "out"] :
      StateM FileTree _) tree).2.read "out/schema.json" ≠ tree.read "out/schema.json" := by
    decide +kernel +zetaReduce
  have again := export_all_again asks done settled
  obtain ⟨outcome, after, ran⟩ : ∃ outcome after,
      (run ["export", "out/schema.json", "--all", "--out-dir", "out"] : StateM FileTree _) tree =
        (outcome, after) := ⟨_, _, (Prod.eta _).symm⟩
  rw [ran] at done replaced again
  exact ⟨outcome, after, ran, done, replaced, again⟩

end SchemaPress.CommandLine
