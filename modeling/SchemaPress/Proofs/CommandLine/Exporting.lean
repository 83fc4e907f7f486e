import SchemaPress.Proofs.CommandLine.Asking
import SchemaPress.Proofs.CommandLine.Notices
import SchemaPress.Proofs.Loading
import SchemaPress.Proofs.Schema.Codec

/-!
# Runs that export

An export loads all that it needs before it writes anything, so whatever it writes, to the standard
output, into one file or into one file for each format, is the text of the schema that was there
before the run (`exports_agree`), also where the run writes over the schema or the settings. What it
tells is stated apart from its log, which the arguments may ask for besides.
-/

set_option autoImplicit false

namespace SchemaPress.CommandLine

open FileTree (bind_run)

variable {arguments : List String} {config directory path : String} {request : ExportRequest}
  {settings : Settings} {schema : Schema} {format : Format} {result : Export}
  {tree made after : FileTree}

/-! ## What is loaded -/

/-- A run that is asked for an export does that export, and writes the log up to some level. -/
theorem run_of_asks (asks : Asks arguments config request) :
    ∃ most, ∀ tree : FileTree, (run arguments : StateM FileTree _) tree =
      Prod.map (Outcome.upTo most) id ((runExport config request : StateM FileTree _) tree) := by
  obtain ⟨verbosity, reads⟩ := asks
  exact ⟨_, fun tree => run_of_reads reads⟩

/-- Says that settings and a schema can be loaded from the files of a tree. -/
structure Loads (tree : FileTree) (config path : String) (settings : Settings) (schema : Schema) :
    Prop where
  settings : ((loadSettings config : StateM FileTree _) tree).1 = .ok settings
  schema : ((loadSchema path : StateM FileTree _) tree).1 = .ok schema

/-- Once its settings have been loaded an export goes on under them, behind what is logged about
them. -/
theorem runExport_of_settings
    (loaded : ((loadSettings config : StateM FileTree _) tree).1 = .ok settings) :
    (runExport config request : StateM FileTree _) tree =
      Prod.map (Outcome.behind ((tree.settingsLog config).map .logged)) id
        ((exportUnder settings request : StateM FileTree _) tree) := by
  rw [runExport, bind_run, openSettings_run, loaded]
  rfl

/-- What is logged when settings and a schema are loaded. -/
def loadingLog (tree : FileTree) (config path : String) (schema : Schema) : List LogEntry :=
  tree.settingsLog config ++ [loadedEntry path schema]

/-- What has been loaded is written as requested, behind what is logged about the loading. -/
theorem runExport_of_loads (loads : Loads tree config request.schema settings schema) :
    (runExport config request : StateM FileTree _) tree =
      Prod.map (Outcome.behind ((loadingLog tree config request.schema schema).map .logged)) id
        ((writeRequested settings schema request : StateM FileTree _) tree) := by
  have under : (exportUnder settings request : StateM FileTree _) tree =
      Prod.map (Outcome.behind [.logged (loadedEntry request.schema schema)]) id
        ((writeRequested settings schema request : StateM FileTree _) tree) := by
    rw [exportUnder, bind_run, openSchema_run, loads.schema]
    rfl
  rw [runExport_of_settings loads.settings, under, Prod.map_map, Outcome.behind_comp_behind,
    loadingLog, List.map_append]
  rfl

/-! ## What is written -/

/-- A schema that can be exported is rendered. -/
theorem rendered_of_exportAs (context : String)
    (exported : schema.exportAs settings format = .ok result) :
    rendered settings schema context format = .ok result := by
  rw [rendered, exported]

/-- Where its text can be written an export is written, and that is logged and told. -/
theorem writeExport_of_withTexts (wrote : tree.withTexts [(path, result.text)] = .ok after) :
    (writeExport path result : StateM FileTree _) tree =
      (.ok (exportedNotices path result), after) := by
  obtain ⟨made, written, around, first, rest⟩ :=
    (FileTree.withTexts_cons_eq_ok path result.text).mp wrote
  rw [writeExport, bind_run, around]
  change ((Files.write path result.text >>= _ : StateM FileTree _) made) = _
  rw [bind_run, FileTree.write_run first, ← Except.ok.inj rest]
  rfl

/-- Where no file is asked for the text is printed. -/
theorem writeOne_of_stdout (out : request.out = none)
    (exported :
      schema.exportAs settings (request.format.getD settings.defaultFormat) = .ok result) :
    (writeOne settings schema request : StateM FileTree _) tree =
      ({ stdout := withLineFeed result.text, notices := [renderedNotice schema result] },
        tree) := by
  rw [writeOne, rendered_of_exportAs _ exported, out]
  rfl

/-- A file that is asked for is written. -/
theorem writeOne_of_file (out : request.out = some path)
    (exported :
      schema.exportAs settings (request.format.getD settings.defaultFormat) = .ok result)
    (wrote : tree.withTexts [(path, result.text)] = .ok after) :
    (writeOne settings schema request : StateM FileTree _) tree =
      ({ notices := renderedNotice schema result :: exportedNotices path result }, after) := by
  rw [writeOne, rendered_of_exportAs _ exported, out]
  change ((writeExport path result >>= _ : StateM FileTree _) tree) = _
  rw [bind_run, writeExport_of_withTexts wrote]
  rfl

/-- When a format has been written the formats behind it are next. -/
theorem writeEach_cons (formats : List Format)
    (exported : schema.exportAs settings format = .ok result)
    (wrote :
      tree.withTexts [(Files.inside directory (fileName format), result.text)] = .ok after) :
    (writeEach settings schema directory (format :: formats) : StateM FileTree _) tree =
      Prod.map (Outcome.behind (renderedNotice schema result ::
          exportedNotices (Files.inside directory (fileName format)) result)) id
        ((writeEach settings schema directory formats : StateM FileTree _) after) := by
  rw [writeEach, rendered_of_exportAs _ exported]
  change ((writeExport (Files.inside directory (fileName format)) result >>= _ :
    StateM FileTree _) tree) = _
  rw [bind_run, writeExport_of_withTexts wrote]
  rfl

/-- The texts of a schema in some formats, with the files in a directory of all formats. -/
def formatFiles (directory : String) (results : Format → Export) (formats : List Format) :
    List (String × String) :=
  formats.map fun format => (Files.inside directory (fileName format), (results format).text)

/-- What is told about the files in a directory of all formats. -/
def formatLines (directory : String) (results : Format → Export) (formats : List Format) :
    List Notice :=
  formats.map fun format =>
    .told (exportedLine (Files.inside directory (fileName format)) (results format))

/-- What is logged and told about these files. -/
def formatNotices (schema : Schema) (directory : String) (results : Format → Export)
    (formats : List Format) : List Notice :=
  formats.flatMap fun format => renderedNotice schema (results format) ::
    exportedNotices (Files.inside directory (fileName format)) (results format)

/-- What is told about the files is one line for each of them. -/
theorem filter_formatNotices (results : Format → Export) (formats : List Format) :
    (formatNotices schema directory results formats).filter Notice.isTold =
      formatLines directory results formats := by
  induction formats with
  | nil => rfl
  | cons format formats ih =>
    rw [formatNotices, List.flatMap_cons, List.filter_append, ← formatNotices, ih]
    rfl

/-- When some formats have been written the formats behind them are next. -/
theorem writeEach_append {results : Format → Export} {formats : List Format} (rest : List Format)
    (exported : ∀ format ∈ formats, schema.exportAs settings format = .ok (results format))
    (wrote : tree.withTexts (formatFiles directory results formats) = .ok after) :
    (writeEach settings schema directory (formats ++ rest) : StateM FileTree _) tree =
      Prod.map (Outcome.behind (formatNotices schema directory results formats)) id
        ((writeEach settings schema directory rest : StateM FileTree _) after) := by
  induction formats generalizing tree with
  | nil =>
    rw [← Except.ok.inj wrote]
    rfl
  | cons format formats ih =>
    obtain ⟨made, written, around, first, others⟩ := (FileTree.withTexts_cons_eq_ok _ _).mp wrote
    have single : tree.withTexts
        [(Files.inside directory (fileName format), (results format).text)] = .ok written :=
      (FileTree.withTexts_cons_eq_ok _ _).mpr ⟨made, written, around, first, rfl⟩
    rw [List.forall_mem_cons] at exported
    rw [List.cons_append, writeEach_cons _ exported.1 single, ih exported.2 others, Prod.map_map,
      Outcome.behind_comp_behind]
    rfl

/-- A format that cannot be exported ends the run, before anything is written for it. -/
theorem writeEach_tree_of_error {failure : ExportFailure} (formats : List Format)
    (error : schema.exportAs settings format = .error failure) :
    ((writeEach settings schema directory (format :: formats) : StateM FileTree _) tree).2 =
      tree := by
  rw [writeEach, rendered, error]
  cases failure <;> rfl

/-! ## The files of all formats -/

/-- The path of a format's file ends with the name of the file. -/
theorem isNamed_inside_fileName (directory : String) (format : Format) :
    Files.IsNamed (Files.inside directory (fileName format)) (fileName format).toList := by
  cases format
  all_goals exact Files.isNamed_inside directory (by decide) (by decide) (by decide)

/-- The files of different formats have different names. -/
theorem fileName_inj {format other : Format} (same : fileName format = fileName other) :
    format = other := by
  revert same
  cases format <;> cases other <;> decide

/-- The files of different formats are different files. -/
theorem isApart_files (directory : String) {format other : Format} (differ : format ≠ other) :
    Files.IsApart (Files.inside directory (fileName format))
      (Files.inside directory (fileName other)) := by
  refine ⟨_, _, isNamed_inside_fileName directory format, isNamed_inside_fileName directory other,
    fun same => ?_⟩
  exact differ (fileName_inj (String.toList_inj.mp same))

/-- When all files have been written each holds its text. -/
theorem read_formatFiles {results : Format → Export} {formats : List Format}
    (distinct : formats.Nodup)
    (wrote : tree.withTexts (formatFiles directory results formats) = .ok after) :
    ∀ format ∈ formats,
      after.read (Files.inside directory (fileName format)) = .ok (results format).text := by
  have apart : (formatFiles directory results formats).Pairwise fun file other =>
      Files.IsApart file.1 other.1 := by
    rw [formatFiles, List.pairwise_map]
    exact distinct.imp fun differ => isApart_files directory differ
  intro format here
  have entry : (Files.inside directory (fileName format), (results format).text) ∈
      formatFiles directory results formats := List.mem_map.mpr ⟨format, here, rfl⟩
  exact FileTree.read_withTexts wrote apart
    (Files.inside directory (fileName format), (results format).text) entry

/-- An export that does not ask for all formats writes one. -/
theorem runExport_of_one (loads : Loads tree config request.schema settings schema)
    (one : request.all = false) :
    (runExport config request : StateM FileTree _) tree =
      Prod.map (Outcome.behind ((loadingLog tree config request.schema schema).map .logged)) id
        ((writeOne settings schema request : StateM FileTree _) tree) := by
  have single : (writeRequested settings schema request : StateM FileTree _) =
      writeOne settings schema request := by
    simp [writeRequested, one]
  rw [runExport_of_loads loads, single]

/-- A request for all formats in a directory is one to write them all there. -/
theorem writeRequested_of_all (all : request.all = true)
    (outDir : request.outDir = some directory) :
    (writeRequested settings schema request : StateM FileTree _) =
      writeAll settings schema directory := by
  simp [writeRequested, all, outDir]

/-- An export that asks for all formats makes their directory and writes them one after another. -/
theorem runExport_of_all (loads : Loads tree config request.schema settings schema)
    (all : request.all = true) (outDir : request.outDir = some directory)
    (directories : (Files.makeDirectories directory : StateM FileTree _) tree = (.ok (), made)) :
    (runExport config request : StateM FileTree _) tree =
      Prod.map (Outcome.behind ((loadingLog tree config request.schema schema).map .logged)) id
        ((writeEach settings schema directory Format.all : StateM FileTree _) made) := by
  rw [runExport_of_loads loads, writeRequested_of_all all outDir, writeAll, bind_run, directories]

/-! ## All ways to export -/

/-- Says that exports write the texts of one schema under the same settings, wherever to. Apart from
its log, which only some arguments ask for, an outcome holds just what is said of it. -/
structure ExportsAgree (tree : FileTree) (config path : String) (settings : Settings)
    (schema : Schema) : Prop where
  /-- The arguments of a request ask for it, unless a path would be taken for an option. -/
  asked : ∀ request : ExportRequest, request.IsSound →
    Asks (exportArguments request) standardConfig request
  /-- Nothing is logged unless the arguments ask for it. -/
  quiet : ∀ arguments request,
    Invocation.ofArguments arguments = .ok ⟨config, 0, .exportSchema request⟩ →
    ((run arguments : StateM FileTree _) tree).1.unlogged =
      ((run arguments : StateM FileTree _) tree).1
  /-- The standard output is the text in the format that is asked for, with a line feed at its
  end, and no file changes. -/
  stdout : ∀ arguments format outDir result,
    Asks arguments config { schema := path, format := some format, outDir } →
    schema.exportAs settings format = .ok result →
    ∃ outcome : Outcome, (run arguments : StateM FileTree _) tree = (outcome, tree) ∧
      outcome.unlogged =
        { stdout := if result.text.endsWith "\n" then result.text else result.text ++ "\n" }
  /-- A file that is asked for holds just the text. -/
  file : ∀ arguments format out outDir result after,
    Asks arguments config { schema := path, format := some format, out := some out, outDir } →
    schema.exportAs settings format = .ok result →
    tree.withTexts [(out, result.text)] = .ok after →
    (∃ outcome : Outcome, (run arguments : StateM FileTree _) tree = (outcome, after) ∧
      outcome.unlogged = { notices := [.told (exportedLine out result)] }) ∧
    after.read out = .ok result.text
  /-- The file of each format in a directory holds just the text in that format. -/
  all : ∀ arguments directory results made after,
    Asks arguments config { schema := path, all := true, outDir := some directory } →
    (∀ format, schema.exportAs settings format = .ok (results format)) →
    (Files.makeDirectories directory : StateM FileTree _) tree = (.ok (), made) →
    made.withTexts (formatFiles directory results Format.all) = .ok after →
    (∃ outcome : Outcome, (run arguments : StateM FileTree _) tree = (outcome, after) ∧
      outcome.unlogged = { notices := formatLines directory results Format.all }) ∧
    ∀ format, after.read (Files.inside directory (fileName format)) = .ok (results format).text
  /-- So do the files of the formats before the first one that is refused. -/
  before : ∀ arguments directory results formats refused others failure made after,
    Asks arguments config { schema := path, all := true, outDir := some directory } →
    Format.all = formats ++ refused :: others →
    (∀ format ∈ formats, schema.exportAs settings format = .ok (results format)) →
    schema.exportAs settings refused = .error failure →
    (Files.makeDirectories directory : StateM FileTree _) tree = (.ok (), made) →
    made.withTexts (formatFiles directory results formats) = .ok after →
    ((run arguments : StateM FileTree _) tree).2 = after ∧
    ∀ format ∈ formats,
      after.read (Files.inside directory (fileName format)) = .ok (results format).text
  /-- Where no format is asked for, the one of the settings is meant. -/
  standard : ∀ arguments arguments' out outDir,
    Asks arguments config { schema := path, out, outDir } →
    Asks arguments' config
      { schema := path, format := some settings.defaultFormat, out, outDir } →
    ((run arguments : StateM FileTree _) tree).2 = ((run arguments' : StateM FileTree _) tree).2 ∧
    ((run arguments : StateM FileTree _) tree).1.unlogged =
      ((run arguments' : StateM FileTree _) tree).1.unlogged

/-- An export to the standard output, one into a file, and the one into a directory of all formats
write the same texts: those of the schema and the settings that were there before the run. -/
theorem exports_agree (loads : Loads tree config path settings schema) :
    ExportsAgree tree config path settings schema where
  asked := fun _ sound => asks_exportArguments sound
  quiet := by
    intro arguments request reads
    rw [run_of_reads reads, Prod.map_fst, Outcome.upTo_quiet, Outcome.unlogged_unlogged]
  stdout := by
    intro arguments format outDir result asks exported
    obtain ⟨most, ran⟩ := run_of_asks asks
    rw [ran, runExport_of_one loads rfl, writeOne_of_stdout rfl exported]
    refine ⟨_, rfl, ?_⟩
    rw [Outcome.unlogged_upTo, Outcome.unlogged_behind_log]
    rfl
  file := by
    intro arguments format out outDir result after asks exported wrote
    have reads := FileTree.read_withTexts wrote (List.pairwise_singleton _ _)
    rw [List.forall_mem_singleton] at reads
    obtain ⟨most, ran⟩ := run_of_asks asks
    rw [ran, runExport_of_one loads rfl, writeOne_of_file rfl exported wrote]
    refine ⟨⟨_, rfl, ?_⟩, reads⟩
    rw [Outcome.unlogged_upTo, Outcome.unlogged_behind_log]
    rfl
  all := by
    intro arguments directory results made after asks exported directories wrote
    have written := writeEach_append [] (fun format _ => exported format) wrote
    rw [List.append_nil] at written
    obtain ⟨most, ran⟩ := run_of_asks asks
    rw [ran, runExport_of_all loads rfl rfl directories, written]
    refine ⟨⟨_, rfl, ?_⟩, fun format => ?_⟩
    · rw [Outcome.unlogged_upTo, Outcome.unlogged_behind_log, Outcome.unlogged_behind,
        filter_formatNotices]
      simp [Outcome.behind, Outcome.unlogged]
    · exact read_formatFiles (by decide) wrote format (by cases format <;> decide)
  before := by
    intro arguments directory results formats refused others failure made after asks split exported
      error directories wrote
    have written := writeEach_append (refused :: others) exported wrote
    rw [← split] at written
    obtain ⟨most, ran⟩ := run_of_asks asks
    rw [ran, runExport_of_all loads rfl rfl directories, written]
    have distinct : formats.Nodup := by
      have all : Format.all.Nodup := by decide
      rw [split] at all
      exact (List.nodup_append.mp all).1
    exact ⟨writeEach_tree_of_error others error, read_formatFiles distinct wrote⟩
  standard := by
    intro arguments arguments' out outDir asks asks'
    obtain ⟨most, ran⟩ := run_of_asks asks
    obtain ⟨most', ran'⟩ := run_of_asks asks'
    have same : (runExport config { schema := path, out, outDir } : StateM FileTree _) tree =
        (runExport config { schema := path, format := some settings.defaultFormat, out, outDir } :
          StateM FileTree _) tree := by
      rw [runExport_of_one loads rfl, runExport_of_one loads rfl]
      rfl
    rw [ran, ran', same]
    exact ⟨rfl, Outcome.unlogged_upTo.trans Outcome.unlogged_upTo.symm⟩

/-- A schema in a directory of all formats is exported, and replaced by its canonical form. -/
theorem exports_agree_own_input :
    let value : Json.Value := .record [("tables", .list []), ("name", .text "shop")]
    let file : FileTree.Spot := ["out".toList, "schema.json".toList]
    let tree : FileTree := ⟨[(["out".toList], .directory), (file, .text value.pretty)]⟩
    let shop : Schema := { name := "shop", tables := [] }
    Loads tree standardConfig "out/schema.json" {} shop ∧
    ∃ lines after,
      (run ["export", "out/schema.json", "--all", "--out-dir", "out"] : StateM FileTree _) tree =
        ({ notices := lines }, after) ∧
      ∀ format, ∃ result, shop.exportAs {} format = .ok result ∧
        (run ["export", "out/schema.json", "-f", format.word] : StateM FileTree _) tree =
          ({ stdout := if result.text.endsWith "\n" then result.text else result.text ++ "\n" },
            tree) ∧
        after.read (Files.inside "out" (fileName format)) = .ok result.text := by
  intro value file tree shop
  have held : tree.read "out/schema.json" = .ok value.pretty := by
    decide +kernel +zetaReduce
  have read : Schema.ofJson value.pretty = .ok shop := Schema.ofJson_pretty rfl
  have loads : Loads tree standardConfig "out/schema.json" {} shop :=
    ⟨rfl, loadSchema_of_json (by decide +kernel) held read⟩
  let results (format : Format) : Export := (shop.exportAs {} format).toOption.getD default
  have exported (format : Format) : shop.exportAs {} format = .ok (results format) := by
    cases format <;> rfl
  have directories : (Files.makeDirectories "out" : StateM FileTree _) tree = (.ok (), tree) := rfl
  obtain ⟨after, wrote⟩ : ∃ after,
      tree.withTexts (formatFiles "out" results Format.all) = .ok after := by
    have succeeds : (tree.withTexts (formatFiles "out" results Format.all)).isOk = true := by
      decide +kernel +zetaReduce
    cases wrote : tree.withTexts (formatFiles "out" results Format.all) with
    | ok after => exact ⟨after, rfl⟩
    | error error =>
      rw [wrote] at succeeds
      cases succeeds
  have agree := exports_agree loads
  have path : IsPath "out/schema.json" := by decide
  have out : ∀ path ∈ some "out", IsPath path := by
    intro path given
    cases given
    decide
  have asksAll : Asks ["export", "out/schema.json", "--all", "--out-dir", "out"] standardConfig
      { schema := "out/schema.json", all := true, outDir := some "out" } :=
    agree.asked { schema := "out/schema.json", all := true, outDir := some "out" }
      { schema := path, out := by simp, outDir := out, all := by simp }
  have asks (format : Format) : Asks ["export", "out/schema.json", "-f", format.word]
      standardConfig { schema := "out/schema.json", format := some format } :=
    agree.asked { schema := "out/schema.json", format := some format }
      { schema := path, out := by simp, outDir := by simp, all := by simp }
  obtain ⟨⟨outcome, ran, tells⟩, reads⟩ :=
    agree.all _ _ results tree after asksAll exported directories wrote
  have quiet := agree.quiet ["export", "out/schema.json", "--all", "--out-dir", "out"]
    { schema := "out/schema.json", all := true, outDir := some "out" } (by decide +kernel)
  rw [ran, tells] at quiet
  refine ⟨loads, _, after, ran.trans (Prod.ext quiet.symm rfl), fun format => ?_⟩
  obtain ⟨outcome, ran, tells⟩ := agree.stdout _ format none _ (asks format) (exported format)
  have quiet := agree.quiet ["export", "out/schema.json", "-f", format.word]
    { schema := "out/schema.json", format := some format } (by cases format <;> decide +kernel)
  rw [ran, tells] at quiet
  exact ⟨results format, exported format, ran.trans (Prod.ext quiet.symm rfl), reads format⟩

end SchemaPress.CommandLine
