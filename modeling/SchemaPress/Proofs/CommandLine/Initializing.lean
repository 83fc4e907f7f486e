import SchemaPress.Proofs.CommandLine.Ending
import SchemaPress.Proofs.Files.Beside
import SchemaPress.Proofs.Settings.Gaps

/-!
# Writing the standard settings

A run that writes the standard settings to a file changes nothing else, or nothing at all
(`init_cases`). Where it succeeds, the settings are loaded from the file as they were without it, so
every export whose schema and outputs pass the file by does what it would have done before
(`init_neutral`).

Only the log tells the two apart: where there is no file, that is its first entry
(`settings_logged_before`).
-/

set_option autoImplicit false

namespace SchemaPress.CommandLine

open FileTree (bind_run Ignores HasBeside ignores_pure)
open Files (Passes)

variable {arguments : List String} {config directory path : String} {request : ExportRequest}
  {spot : FileTree.Spot} {file : FileTree.Entry} {outcome : Outcome} {tree other after : FileTree}

/-! ## Exports that pass a file by -/

/-- The paths of the files that an export writes. -/
def ExportRequest.outputs (request : ExportRequest) : List String :=
  if request.all then
    request.outDir.toList.flatMap fun directory =>
      Format.all.map fun format => Files.inside directory (fileName format)
  else request.out.toList

/-- The loading of a schema whose path passes a file by ignores the file. -/
theorem ignores_openSchema (avoids : ¬ Passes path spot) :
    Ignores spot file (openSchema path : StateM FileTree _) :=
  (FileTree.ignores_read avoids).bind fun _ => ignores_pure _

/-- So does the writing of an export whose path does. -/
theorem ignores_writeExport (avoids : ¬ Passes path spot) (result : Export) :
    Ignores spot file (writeExport path result : StateM FileTree _) := by
  have around : ¬ Passes ((Files.parent? path).getD "") spot :=
    fun passes => avoids (Files.passes_of_around passes)
  refine (FileTree.ignores_makeDirectories around).bind fun tree => ?_
  cases ((Files.makeDirectories ((Files.parent? path).getD "") : StateM FileTree _) tree).1 with
  | error error => exact ignores_pure _
  | ok done =>
    refine (FileTree.ignores_write avoids result.text).bind fun tree => ?_
    cases ((Files.write path result.text : StateM FileTree _) tree).1 with
    | error error => exact ignores_pure _
    | ok done => exact ignores_pure _

/-- So does the writing of formats whose files do. -/
theorem ignores_writeEach {formats : List Format}
    (avoids : ∀ format ∈ formats, ¬ Passes (Files.inside directory (fileName format)) spot)
    (settings : Settings) (schema : Schema) :
    Ignores spot file (writeEach settings schema directory formats : StateM FileTree _) := by
  induction formats with
  | nil => exact ignores_pure _
  | cons format formats ih =>
    rw [List.forall_mem_cons] at avoids
    rw [writeEach]
    cases rendered settings schema ("export as " ++ format.word) format with
    | error trouble => exact ignores_pure _
    | ok result =>
      refine (ignores_writeExport avoids.1 result).bind fun tree => ?_
      cases ((writeExport (Files.inside directory (fileName format)) result :
        StateM FileTree _) tree).1 with
      | error failure => exact ignores_pure _
      | ok line => exact (ih avoids.2).bind fun _ => ignores_pure _

/-- So does the writing of all formats. -/
theorem ignores_writeAll
    (avoids : ∀ format ∈ Format.all, ¬ Passes (Files.inside directory (fileName format)) spot)
    (settings : Settings) (schema : Schema) :
    Ignores spot file (writeAll settings schema directory : StateM FileTree _) := by
  have around : ¬ Passes directory spot :=
    fun passes => avoids .json (by decide) (Files.passes_of_directory passes)
  refine (FileTree.ignores_makeDirectories around).bind fun tree => ?_
  cases ((Files.makeDirectories directory : StateM FileTree _) tree).1 with
  | error error => exact ignores_pure _
  | ok done => exact ignores_writeEach avoids settings schema

/-- So does the writing of one format, to the standard output or to a file that is another one. -/
theorem ignores_writeOne (avoids : ∀ path ∈ request.out, ¬ Passes path spot)
    (settings : Settings) (schema : Schema) :
    Ignores spot file (writeOne settings schema request : StateM FileTree _) := by
  rw [writeOne]
  cases rendered settings schema ("export " ++ request.schema ++ " as " ++
    (request.format.getD settings.defaultFormat).word)
      (request.format.getD settings.defaultFormat) with
  | error trouble => exact ignores_pure _
  | ok result =>
    cases out : request.out with
    | none => exact ignores_pure _
    | some path =>
      refine (ignores_writeExport (avoids path out) result).bind fun tree => ?_
      cases ((writeExport path result : StateM FileTree _) tree).1 with
      | error failure => exact ignores_pure _
      | ok line => exact ignores_pure _

/-- So does all writing that a request asks for, if its outputs pass the file by. -/
theorem ignores_writeRequested (outputs : ∀ path ∈ request.outputs, ¬ Passes path spot)
    (settings : Settings) (schema : Schema) :
    Ignores spot file (writeRequested settings schema request : StateM FileTree _) := by
  unfold ExportRequest.outputs at outputs
  by_cases all : request.all = true
  · rw [if_pos all] at outputs
    cases outDir : request.outDir with
    | none =>
      simp only [writeRequested, all, outDir]
      exact ignores_pure _
    | some directory =>
      rw [outDir] at outputs
      rw [writeRequested_of_all all outDir]
      refine ignores_writeAll (fun format mem => ?_) settings schema
      exact outputs _ (List.mem_flatMap.mpr
        ⟨directory, List.mem_singleton_self _, List.mem_map.mpr ⟨format, mem, rfl⟩⟩)
  · rw [if_neg all] at outputs
    rw [writeRequested, if_neg all]
    exact ignores_writeOne (fun path given => outputs path (Option.mem_toList.mpr given))
      settings schema

/-- Under given settings an export whose schema and outputs pass a file by ignores the file. -/
theorem ignores_exportUnder (schema : ¬ Passes request.schema spot)
    (outputs : ∀ path ∈ request.outputs, ¬ Passes path spot) (settings : Settings) :
    Ignores spot file (exportUnder settings request : StateM FileTree _) := by
  refine (ignores_openSchema schema).bind fun now => ?_
  cases ((openSchema request.schema : StateM FileTree _) now).1 with
  | error failure => exact ignores_pure _
  | ok schema =>
    exact (ignores_writeRequested outputs settings schema.value).bind fun _ => ignores_pure _

/-- An export whose schema and outputs pass a file by does not depend on the file if the settings
that it loads do not, but for what is logged about the settings. -/
theorem runExport_of_hasBeside {settings : Settings} (beside : HasBeside spot file tree other)
    (here : ((loadSettings config : StateM FileTree _) tree).1 = .ok settings)
    (there : ((loadSettings config : StateM FileTree _) other).1 = .ok settings)
    (schema : ¬ Passes request.schema spot)
    (outputs : ∀ path ∈ request.outputs, ¬ Passes path spot) :
    ∃ outcome : Outcome,
      ((runExport config request : StateM FileTree _) tree).1 =
        outcome.behind ((tree.settingsLog config).map .logged) ∧
      ((runExport config request : StateM FileTree _) other).1 =
        outcome.behind ((other.settingsLog config).map .logged) ∧
      HasBeside spot file ((runExport config request : StateM FileTree _) tree).2
        ((runExport config request : StateM FileTree _) other).2 := by
  obtain ⟨same, left⟩ := ignores_exportUnder schema outputs settings tree other beside
  rw [runExport_of_settings here, runExport_of_settings there]
  exact ⟨_, rfl, congrArg (Outcome.behind _) same, left⟩

/-! ## Writing the settings -/

/-- Says that some arguments ask for the standard settings in a file. -/
def AsksInit (arguments : List String) (config : String) : Prop :=
  ∃ verbosity, Invocation.ofArguments arguments = .ok ⟨config, verbosity, .init⟩

/-- A run that is asked to write the standard settings does that. -/
theorem run_of_asksInit (asks : AsksInit arguments config) :
    ∃ most, ∀ tree : FileTree, (run arguments : StateM FileTree _) tree =
      Prod.map (Outcome.upTo most) id ((runInit config : StateM FileTree _) tree) := by
  obtain ⟨verbosity, reads⟩ := asks
  exact ⟨_, fun tree => run_of_reads reads⟩

/-- Where there is something at the path, it is left alone. -/
theorem runInit_of_isThere (there : tree.isThere config = true) :
    (runInit config : StateM FileTree _) tree =
      (.ofFailure ⟨config ++ " already exists", none⟩, tree) := by
  rw [runInit, bind_run]
  change (if tree.isThere config = true then _ else _ : StateM FileTree _) tree = _
  rw [if_pos there]
  rfl

/-- Where nothing is at the path, all that is done is to write to it. -/
theorem runInit_of_absent (absent : tree.isThere config = false)
    {answer : Except FileError Unit}
    (wrote : (Files.write config ({} : Settings).toJson.pretty : StateM FileTree _) tree =
      (answer, after)) :
    ∃ outcome : Outcome, (outcome.exit = 0 ↔ answer = .ok ()) ∧
      (runInit config : StateM FileTree _) tree = (outcome, after) := by
  have gone : ¬ tree.isThere config = true := Bool.eq_false_iff.mp absent
  rw [runInit, bind_run]
  change ∃ outcome : Outcome, _ ∧
    (if tree.isThere config = true then _ else _ : StateM FileTree _) tree = _
  rw [if_neg gone, bind_run, wrote]
  cases answer with
  | error error =>
    exact ⟨_, ⟨fun done => absurd done Nat.one_ne_zero, fun wrote => by cases wrote⟩, rfl⟩
  | ok done => exact ⟨_, ⟨fun _ => rfl, fun _ => rfl⟩, rfl⟩

/-- A file that is written where nothing was is new. -/
theorem hasBeside_of_write {text : String} (absent : tree.isThere path = false)
    (wrote : tree.write path text = .ok after) :
    ∃ spot, tree.spot path = .ok spot ∧ HasBeside spot (.text text) tree after := by
  obtain ⟨spot, found, slash, inner, -, rfl⟩ := FileTree.write_eq_ok wrote
  refine ⟨spot, found, FileTree.hasBeside_insert inner ?_ _⟩
  rw [FileTree.isThere, FileTree.entry_of_spot found, slash] at absent
  cases there : tree.find? spot with
  | none => rfl
  | some entry =>
    rw [there] at absent
    cases entry <;> cases absent

/-- Says that a tree has come from another one by writing the standard settings to a file that was
not there, and that nothing else depends on that file. -/
structure Initializes (tree : FileTree) (config : String) (spot : FileTree.Spot)
    (after : FileTree) : Prop where
  /-- There was nothing at the path. -/
  absent : tree.isThere config = false
  leads : tree.spot config = .ok spot
  /-- The place that it leads to is the only one that has changed. -/
  beside : HasBeside spot (.text ({} : Settings).toJson.pretty) tree after
  /-- The settings are loaded as they were without the file. -/
  settings : (loadSettings config : StateM FileTree _) after = (.ok {}, after) ∧
    (loadSettings config : StateM FileTree _) tree = (.ok {}, tree)
  /-- To write them once more fails and changes nothing. -/
  again : ∀ arguments, AsksInit arguments config → ∃ outcome : Outcome, outcome.IsFailure ∧
    (run arguments : StateM FileTree _) after = (outcome, after)
  /-- An export whose schema and outputs do not go through the file came out before as it does now,
  but for the first entry of its log where that is asked for; and it leaves what it would have left,
  with the file beside it. -/
  exports : ∀ arguments verbosity request,
    Invocation.ofArguments arguments = .ok ⟨config, verbosity, .exportSchema request⟩ →
    ¬ Passes request.schema spot → (∀ path ∈ request.outputs, ¬ Passes path spot) →
    ((run arguments : StateM FileTree _) tree).1 =
      ((run arguments : StateM FileTree _) after).1.behind
      (if verbosity = 0 then [] else [.logged (.settingsNotFound config)]) ∧
    HasBeside spot (.text ({} : Settings).toJson.pretty)
      ((run arguments : StateM FileTree _) tree).2 ((run arguments : StateM FileTree _) after).2

/-- Before the standard settings were written an export logged that there are none, and else it did
what it does now. -/
theorem run_of_hasBeside {verbosity : Nat} (beside : HasBeside spot file tree after)
    (absent : tree.isThere config = false) (present : after.isThere config = true)
    (settings : ((loadSettings config : StateM FileTree _) after).1 = .ok {})
    (reads : Invocation.ofArguments arguments = .ok ⟨config, verbosity, .exportSchema request⟩)
    (schema : ¬ Passes request.schema spot)
    (outputs : ∀ path ∈ request.outputs, ¬ Passes path spot) :
    ((run arguments : StateM FileTree _) tree).1 =
      ((run arguments : StateM FileTree _) after).1.behind
      (if verbosity = 0 then [] else [.logged (.settingsNotFound config)]) ∧
    HasBeside spot file ((run arguments : StateM FileTree _) tree).2
      ((run arguments : StateM FileTree _) after).2 := by
  have standard : ((loadSettings config : StateM FileTree _) tree).1 = .ok {} := by
    rw [loadSettings_of_absent absent]
  obtain ⟨outcome, before, now, left⟩ :=
    runExport_of_hasBeside beside standard settings schema outputs
  have logged : tree.settingsLog config = [.settingsNotFound config] := by
    simp [FileTree.settingsLog, absent]
  have silent : after.settingsLog config = [] := by
    simp [FileTree.settingsLog, present]
  rw [run_of_reads reads, run_of_reads reads]
  refine ⟨?_, left⟩
  simp only [Prod.map_fst]
  change ((runExport config request : StateM FileTree _) tree).1.upTo _ =
    (((runExport config request : StateM FileTree _) after).1.upTo _).behind _
  rw [before, now, silent, Outcome.upTo_behind, Notice.filter_logged, logged]
  rfl

/-- A run that is asked for the standard settings fails and changes nothing, or it has written them
to a file that was not there. -/
theorem init_cases (asks : AsksInit arguments config)
    (ran : (run arguments : StateM FileTree _) tree = (outcome, after)) :
    (outcome.exit ≠ 0 ∧ after = tree) ∨
    (outcome.exit = 0 ∧ tree.isThere config = false ∧
      tree.write config ({} : Settings).toJson.pretty = .ok after) := by
  obtain ⟨most, does⟩ := run_of_asksInit asks
  rw [does] at ran
  cases there : tree.isThere config with
  | true =>
    rw [runInit_of_isThere there] at ran
    obtain ⟨rfl, rfl⟩ := Prod.mk.inj ran
    exact .inl ⟨Nat.one_ne_zero, rfl⟩
  | false =>
    cases wrote : tree.write config ({} : Settings).toJson.pretty with
    | error error =>
      obtain ⟨failing, exit, ends⟩ := runInit_of_absent there (FileTree.write_run_error wrote)
      rw [ends, Prod.map_apply, id] at ran
      obtain ⟨rfl, rfl⟩ := Prod.mk.inj ran
      refine .inl ⟨fun done => ?_, rfl⟩
      cases exit.mp done
    | ok written =>
      obtain ⟨done, exit, ends⟩ := runInit_of_absent there (FileTree.write_run wrote)
      rw [ends, Prod.map_apply, id] at ran
      obtain ⟨rfl, rfl⟩ := Prod.mk.inj ran
      exact .inr ⟨exit.mpr rfl, rfl, rfl⟩

/-- Once the standard settings are in a file that was not there, nothing else has changed, and
nothing but the log of an export tells whether they are. -/
theorem initializes_of_write (absent : tree.isThere config = false)
    (wrote : tree.write config ({} : Settings).toJson.pretty = .ok after) :
    ∃ spot, Initializes tree config spot after := by
  obtain ⟨spot, leads, beside⟩ := hasBeside_of_write absent wrote
  have before := loadSettings_of_absent absent
  have now := loadSettings_of_write wrote (Settings.ofJson_pretty (by decide))
  have present := FileTree.isThere_of_read (FileTree.read_write wrote)
  refine ⟨spot, absent, leads, beside, ⟨now, before⟩, fun others again => ?_,
    fun others verbosity request reads schema outputs => ?_⟩
  · obtain ⟨most, does⟩ := run_of_asksInit again
    rw [does, runInit_of_isThere present]
    exact ⟨_, (isFailure_ofFailure _).upTo most, rfl⟩
  · exact run_of_hasBeside beside absent present (congrArg Prod.fst now) reads schema outputs

/-- To write the standard settings to a file changes nothing if it fails; and if it succeeds, it has
made a new file on which no export depends whose paths do not go through it, except that its log no
longer begins with the entry that there is no such file. -/
theorem init_neutral (asks : AsksInit arguments config)
    (ran : (run arguments : StateM FileTree _) tree = (outcome, after)) :
    (outcome.exit ≠ 0 → after = tree) ∧
    (outcome.exit = 0 → ∃ spot, Initializes tree config spot after) := by
  rcases init_cases asks ran with ⟨fails, same⟩ | ⟨done, absent, wrote⟩
  · exact ⟨fun _ => same, fun done => absurd done fails⟩
  · exact ⟨fun fails => absurd done fails, fun _ => initializes_of_write absent wrote⟩

/-- The standard settings beside a schema, which is then exported in all formats as before; with its
log the export begins one entry later than before. -/
theorem init_neutral_all :
    let value : Json.Value := .record [("name", .text "shop"), ("tables", .list [])]
    let tree : FileTree := ⟨[(["shop.json".toList], .text value.pretty)]⟩
    let arguments := ["export", "shop.json", "--all", "--out-dir", "out"]
    ∃ outcome after, (run ["init"] : StateM FileTree _) tree = (outcome, after) ∧
      outcome.exit = 0 ∧
      ((run arguments : StateM FileTree _) tree).1 = ((run arguments : StateM FileTree _) after).1 ∧
      ((run ("-v" :: arguments) : StateM FileTree _) tree).1 =
        ((run ("-v" :: arguments) : StateM FileTree _) after).1.behind
          [.logged (.settingsNotFound "schemacraft.json")] := by
  intro value tree arguments
  have asksInit : AsksInit ["init"] standardConfig := ⟨0, rfl⟩
  let request : ExportRequest := { schema := "shop.json", all := true, outDir := some "out" }
  have reads : Invocation.ofArguments arguments =
      .ok ⟨standardConfig, 0, .exportSchema request⟩ := by
    decide +kernel
  have readsLog : Invocation.ofArguments ("-v" :: arguments) =
      .ok ⟨standardConfig, 1, .exportSchema request⟩ := by
    decide +kernel
  have exit : ((run ["init"] : StateM FileTree _) tree).1.exit = 0 := by
    decide +kernel +zetaReduce
  have place : tree.spot standardConfig = .ok [standardConfig.toList] := by
    decide +kernel +zetaReduce
  obtain ⟨outcome, after, ran⟩ : ∃ outcome after,
      (run ["init"] : StateM FileTree _) tree = (outcome, after) := ⟨_, _, (Prod.eta _).symm⟩
  rw [ran] at exit
  obtain ⟨spot, done⟩ := (init_neutral asksInit ran).2 exit
  obtain rfl : spot = [standardConfig.toList] := Except.ok.inj (done.leads.symm.trans place)
  have schema : ¬ Passes request.schema [standardConfig.toList] := by decide +kernel
  have outputs : ∀ path ∈ request.outputs, ¬ Passes path [standardConfig.toList] := by
    decide +kernel
  have quiet := (done.exports arguments 0 request reads schema outputs).1
  have logged := (done.exports ("-v" :: arguments) 1 request readsLog schema outputs).1
  rw [if_pos rfl, Outcome.behind_nil] at quiet
  rw [if_neg Nat.one_ne_zero] at logged
  exact ⟨outcome, after, ran, exit, quiet, logged⟩

/-- A run whose log is asked for tells by it whether the standard settings have been written to a
file, though neither its schema nor its output goes through the file. -/
theorem settings_logged_before :
    let value : Json.Value := .record [("name", .text "shop"), ("tables", .list [])]
    let tree : FileTree := ⟨[(["shop.json".toList], .text value.pretty)]⟩
    let request : ExportRequest := { schema := "shop.json" }
    let entry : Notice := .logged (.settingsNotFound "schemacraft.json")
    ∃ outcome after, (run ["init"] : StateM FileTree _) tree = (outcome, after) ∧
      outcome.exit = 0 ∧ tree.spot standardConfig = .ok [standardConfig.toList] ∧
      Asks ["-v", "export", "shop.json"] standardConfig request ∧
      ¬ Passes request.schema [standardConfig.toList] ∧ request.outputs = [] ∧
      entry ∈ ((run ["-v", "export", "shop.json"] : StateM FileTree _) tree).1.notices ∧
      entry ∉ ((run ["-v", "export", "shop.json"] : StateM FileTree _) after).1.notices := by
  intro value tree request entry
  let arguments := ["-v", "export", "shop.json"]
  have reads : Invocation.ofArguments arguments =
      .ok ⟨standardConfig, 1, .exportSchema request⟩ := by
    decide +kernel
  have asks : Asks arguments standardConfig request := ⟨1, reads⟩
  have asksInit : AsksInit ["init"] standardConfig := ⟨0, rfl⟩
  have exit : ((run ["init"] : StateM FileTree _) tree).1.exit = 0 := by
    decide +kernel +zetaReduce
  have place : tree.spot standardConfig = .ok [standardConfig.toList] := by
    decide +kernel +zetaReduce
  have passes : ¬ Passes request.schema [standardConfig.toList] := by
    decide +kernel
  have once : ((run arguments : StateM FileTree _) tree).1.notices.count entry = 1 := by
    decide +kernel +zetaReduce
  obtain ⟨outcome, after, ran⟩ : ∃ outcome after,
      (run ["init"] : StateM FileTree _) tree = (outcome, after) := ⟨_, _, (Prod.eta _).symm⟩
  rw [ran] at exit
  rcases init_cases asksInit ran with ⟨fails, -⟩ | ⟨-, absent, wrote⟩
  · exact absurd exit fails
  obtain ⟨spot, done⟩ := initializes_of_write absent wrote
  obtain rfl : spot = [standardConfig.toList] := Except.ok.inj (done.leads.symm.trans place)
  have logged : ((run arguments : StateM FileTree _) tree).1.notices =
      entry :: ((run arguments : StateM FileTree _) after).1.notices :=
    congrArg Outcome.notices
      (done.exports arguments 1 request reads passes (List.forall_mem_nil _)).1
  -- The entry stands once in the log before, so there is no other one in the log of now.
  rw [logged, List.count_cons_self, Nat.add_eq_right, List.count_eq_zero] at once
  refine ⟨outcome, after, ran, exit, place, asks, passes, rfl, ?_, once⟩
  rw [logged]
  exact List.mem_cons_self

end SchemaPress.CommandLine
