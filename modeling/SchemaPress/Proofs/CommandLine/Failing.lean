import SchemaPress.Proofs.CommandLine.Ending

/-!
# What a failing export leaves behind

An export that fails before it writes leaves all as it was, and prints nothing. When all formats are
written and one of them is refused, the files of the formats before it hold their texts in full, no
other file has changed, and nothing is tried behind it (`failing_export_leaves`).
-/

set_option autoImplicit false

namespace SchemaPress.CommandLine

open FileTree (SameFileAt)

variable {arguments : List String} {request : ExportRequest} {settings : Settings} {schema : Schema}
  {directory : String} {outcome last : Outcome} {tree made after : FileTree}

/-- A format that is refused is not written. -/
theorem writeOne_of_error (tree : FileTree) {failure : ExportFailure}
    (error : schema.exportAs settings (request.format.getD settings.defaultFormat) =
      .error failure) :
    ∃ outcome : Outcome, outcome.IsFailure ∧
      (writeOne settings schema request : StateM FileTree _) tree = (outcome, tree) := by
  obtain ⟨trouble, fails⟩ := rendered_of_error ("export " ++ request.schema ++ " as " ++
    (request.format.getD settings.defaultFormat).word) error
  refine ⟨_, isFailure_ofTrouble trouble, ?_⟩
  rw [writeOne, fails]
  rfl

/-- Says that a run has written some formats into a directory in full and was ended by the next one,
which is refused. -/
structure EndedBy (settings : Settings) (schema : Schema) (directory : String)
    (tree made : FileTree) (formats : List Format) (refused : Format) (outcome : Outcome)
    (after : FileTree) : Prop where
  /-- Every file of these formats holds its text in full. -/
  written : ∀ format ∈ formats, ∃ result, schema.exportAs settings format = .ok result ∧
    after.read (Files.inside directory (fileName format)) = .ok result.text
  /-- After them the next format could not be exported, or its file could not be written. -/
  stopped : ∃ results now, made.withTexts (formatFiles directory results formats) = .ok now ∧
    IsRefused settings schema directory refused now
  /-- No other file has changed. -/
  untouched : ∀ spot,
    (∀ format ∈ formats, after.spot (Files.inside directory (fileName format)) ≠ .ok spot) →
    SameFileAt tree after spot
  /-- No other format is tried: the run ends like this whatever formats are behind the refused one.
  -/
  ends : ∃ last : Outcome, last.unlogged = outcome.unlogged ∧ ∀ others,
    (writeEach settings schema directory (formats ++ refused :: others) : StateM FileTree _) made =
      (last, after)

/-- If some format is not written, it ends the run. -/
theorem endedBy_of_exit
    (directories : (Files.makeDirectories directory : StateM FileTree _) tree = (.ok (), made))
    (ran : (writeEach settings schema directory Format.all : StateM FileTree _) made =
      (last, after))
    (told : last.unlogged = outcome.unlogged) (fails : last.exit ≠ 0) :
    ∃ formats refused others, Format.all = formats ++ refused :: others ∧
      EndedBy settings schema directory tree made formats refused outcome after := by
  obtain ⟨results, known⟩ := exists_results settings schema
  obtain ⟨formats, rest, now, split, exported, wrote, ending⟩ :=
    exists_written_split settings schema directory known Format.all made
  have written := writeEach_append rest exported wrote
  cases rest with
  | nil =>
    -- Had all formats been written, the run would not have failed.
    rw [← split, ran] at written
    obtain ⟨rfl, rfl⟩ := Prod.mk.inj written
    exact absurd rfl fails
  | cons refused others =>
    have stopped := ending refused rfl
    obtain ⟨failing, final, -, makes, ends⟩ := writeEach_of_isRefused stopped
    rw [← split, ends, ran] at written
    obtain ⟨rfl, rfl⟩ := Prod.mk.inj written
    have grows : FileTree.Grows now after := FileTree.grows_of_makes makes
    have distinct : formats.Nodup := by
      have all : Format.all.Nodup := by decide
      rw [split] at all
      exact (List.nodup_append.mp all).1
    refine ⟨formats, refused, others, split, fun format here => ?_, ⟨results, now, wrote, stopped⟩,
      fun spot elsewhere => ?_, _, told, fun others' => ?_⟩
    · exact ⟨results format, exported format here,
        FileTree.read_of_grows grows (read_formatFiles distinct wrote format here)⟩
    · have first : SameFileAt tree made spot := by
        have same := FileTree.sameFileAt_makeDirectories directory tree spot
        rw [directories] at same
        exact same
      have files : SameFileAt made now spot := by
        refine FileTree.sameFileAt_withTexts wrote fun file here leads => ?_
        obtain ⟨format, mem, rfl⟩ := List.mem_map.mp here
        exact elsewhere format mem (FileTree.spotOf_of_keeps grows.keeps leads)
      exact (first.trans files).trans (FileTree.sameFileAt_makes makes spot)
    · rw [writeEach_append _ exported wrote, ends]
      rfl

/-! ## What is left behind -/

/-- Says what an export leaves behind where it fails. -/
structure LeavesBehind (tree : FileTree) (config : String) (request : ExportRequest)
    (outcome : Outcome) (after : FileTree) : Prop where
  /-- Where the settings or the schema cannot be loaded, nothing changes and nothing is printed. -/
  unloaded : tree.LoadingFails config request.schema →
    after = tree ∧ outcome.exit ≠ 0 ∧ outcome.stdout = ""
  /-- Where the schema cannot be exported in the one format that is asked for, nothing changes
  either. -/
  single : ∀ settings schema failure, Loads tree config request.schema settings schema →
    request.all = false →
    schema.exportAs settings (request.format.getD settings.defaultFormat) = .error failure →
    after = tree ∧ outcome.exit ≠ 0 ∧ outcome.stdout = ""
  /-- Where not even the directory of all formats can be made, no file changes. -/
  directory : ∀ settings schema directory error made,
    Loads tree config request.schema settings schema →
    request.all = true → request.outDir = some directory →
    (Files.makeDirectories directory : StateM FileTree _) tree = (.error error, made) →
    after = made ∧ outcome.exit ≠ 0 ∧ ∀ spot, SameFileAt tree after spot
  /-- Where the writing of all formats fails, it is ended by one of them, and just the files of the
  formats before that one have been written. -/
  all : ∀ settings schema directory made, Loads tree config request.schema settings schema →
    request.all = true → request.outDir = some directory →
    (Files.makeDirectories directory : StateM FileTree _) tree = (.ok (), made) →
    outcome.exit ≠ 0 →
    ∃ formats refused others, Format.all = formats ++ refused :: others ∧
      EndedBy settings schema directory tree made formats refused outcome after

/-- Whatever an export fails at, it leaves a predictable state behind; and arguments that ask for no
command change nothing. -/
theorem failing_export_leaves (ran : (run arguments : StateM FileTree _) tree = (outcome, after)) :
    (∀ stop, Invocation.ofArguments arguments = .error stop → after = tree) ∧
    ∀ config request, Asks arguments config request →
      LeavesBehind tree config request outcome after := by
  refine ⟨fun stop refused => ?_, fun config request asks => ?_⟩
  · rw [run, refused] at ran
    exact (Prod.mk.inj ran).2.symm
  obtain ⟨most, does⟩ := run_of_asks asks
  rw [does] at ran
  -- What an export does decides over the run, whatever is logged.
  have settled {failing : Outcome} (fails : failing.IsFailure) {left : FileTree}
      (ends : (runExport config request : StateM FileTree _) tree = (failing, left)) :
      after = left ∧ outcome.exit ≠ 0 ∧ outcome.stdout = "" := by
    rw [ends] at ran
    obtain ⟨rfl, rfl⟩ := Prod.mk.inj ran
    exact ⟨rfl, (fails.upTo most).exit, (fails.upTo most).stdout⟩
  refine ⟨fun loading => ?_, fun settings schema failure loads one error => ?_, ?_, ?_⟩
  · obtain ⟨failure, error⟩ := loading.exists_failure
    obtain ⟨failing, fails, ends⟩ := runExport_of_load_error error
    exact settled fails ends
  · obtain ⟨failing, fails, ends⟩ := writeOne_of_error tree error
    have exports := runExport_of_one loads one
    rw [ends] at exports
    exact settled (fails.behind _) exports
  · intro settings schema directory error made loads all outDir refused
    obtain ⟨failing, fails, ends⟩ := runExport_of_directory_error loads all outDir refused
    obtain ⟨rfl, exit, -⟩ := settled fails ends
    have same := FileTree.sameFileAt_makeDirectories directory tree
    rw [refused] at same
    exact ⟨rfl, exit, same⟩
  · intro settings schema directory made loads all outDir directories fails
    rw [runExport_of_all loads all outDir directories] at ran
    cases each : (writeEach settings schema directory Format.all : StateM FileTree _) made with
    | mk last left =>
      rw [each] at ran
      obtain ⟨rfl, rfl⟩ := Prod.mk.inj ran
      refine endedBy_of_exit directories each ?_ fails
      rw [Outcome.unlogged_upTo, Outcome.unlogged_behind_log]

/-- Where a directory stands in place of the Prisma file, the run is ended by one of the formats,
and only the formats before it have been written. -/
theorem failing_export_leaves_directory :
    let value : Json.Value := .record [("name", .text "shop"), ("tables", .list [])]
    let shop : Schema := { name := "shop", tables := [] }
    let tree : FileTree := ⟨[(["shop.json".toList], .text value.pretty),
      (["out".toList], .directory), (["out".toList, "schema.prisma".toList], .directory)]⟩
    ∃ outcome after,
      (run ["export", "shop.json", "--all", "--out-dir", "out"] : StateM FileTree _) tree =
        (outcome, after) ∧
      outcome.exit = 1 ∧
      ∃ formats refused others, Format.all = formats ++ refused :: others ∧
        EndedBy {} shop "out" tree tree formats refused outcome after := by
  intro value shop tree
  have held : tree.read "shop.json" = .ok value.pretty := by
    decide +kernel +zetaReduce
  have read : Schema.ofJson value.pretty = .ok shop := Schema.ofJson_pretty rfl
  have loads : Loads tree standardConfig "shop.json" {} shop :=
    ⟨rfl, loadSchema_of_json (by decide +kernel) held read⟩
  have directories : (Files.makeDirectories "out" : StateM FileTree _) tree = (.ok (), tree) := rfl
  have asks : Asks ["export", "shop.json", "--all", "--out-dir", "out"] standardConfig
      { schema := "shop.json", all := true, outDir := some "out" } :=
    @asks_exportArguments { schema := "shop.json", all := true, outDir := some "out" }
      { schema := by decide, out := by simp, outDir := by simp; decide, all := by simp }
  have exit : ((run ["export", "shop.json", "--all", "--out-dir", "out"] :
      StateM FileTree _) tree).1.exit = 1 := by
    decide +kernel +zetaReduce
  obtain ⟨outcome, after, ran⟩ : ∃ outcome after,
      (run ["export", "shop.json", "--all", "--out-dir", "out"] : StateM FileTree _) tree =
        (outcome, after) := ⟨_, _, (Prod.eta _).symm⟩
  rw [ran] at exit
  have leaves := (failing_export_leaves ran).2 _ _ asks
  refine ⟨outcome, after, ran, exit, leaves.all {} shop "out" tree loads rfl rfl directories ?_⟩
  rw [exit]
  exact Nat.one_ne_zero

end SchemaPress.CommandLine
