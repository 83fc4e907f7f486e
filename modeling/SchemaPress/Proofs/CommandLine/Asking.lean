import SchemaPress.Proofs.CommandLine.Drafting
import SchemaPress.Proofs.CommandLine.Spelling

/-!
# Arguments that ask for an export

Every request for an export that is in accord with itself is what some arguments ask for
(`asks_exportArguments`): the command, the path of the schema, and each option in full. Only paths
that would be taken for options are left out.
-/

set_option autoImplicit false

namespace SchemaPress.CommandLine

/-- Says that some arguments ask for an export with the settings in a file. -/
def Asks (arguments : List String) (config : String) (request : ExportRequest) : Prop :=
  ∃ verbosity, Invocation.ofArguments arguments = .ok ⟨config, verbosity, .exportSchema request⟩

/-- The arguments that ask for an export with the settings in the standard file. -/
def exportArguments (request : ExportRequest) : List String :=
  "export" :: request.schema ::
    ((request.format.toList.flatMap fun format => ["-f", format.word]) ++
      ((request.out.toList.flatMap fun path => ["--out", path]) ++
        ((if request.all then ["--all"] else []) ++
          (request.outDir.toList.flatMap fun path => ["--out-dir", path]))))

/-- Says that a text is taken for a path wherever a path may stand. -/
def IsPath (text : String) : Prop :=
  text ≠ "" ∧ looksLikeOption text = false

instance (text : String) : Decidable (IsPath text) :=
  inferInstanceAs (Decidable (_ ∧ _))

/-- Says that a request is in accord with itself and that its paths are taken for paths. -/
structure ExportRequest.IsSound (request : ExportRequest) : Prop where
  schema : IsPath request.schema
  out : ∀ path ∈ request.out, IsPath path
  outDir : ∀ path ∈ request.outDir, IsPath path
  all : request.all = true → request.format = none ∧ request.out = none ∧ request.outDir ≠ none

section Items

variable {arguments : List String}

/-- Options that may be left out are read with what stands behind them. -/
theorem items_maybe {α : Type} {call : Call} (fits : call.Fits (some .exportSchema))
    (alone : call.switches = []) (valued : true = call.flag.hasValue) (text : α → String)
    (given : Option α) (plain : ∀ value ∈ given, looksLikeOption (text value) = false)
    (arguments : List String) :
    items (some .exportSchema)
        ((given.toList.flatMap fun value => [call.text, text value]) ++ arguments) =
      (given.toList.map fun value => .setting call.flag (text value) false) ++
        items (some .exportSchema) arguments := by
  cases given with
  | none => rfl
  | some value =>
    have spelled : Spelling.Fits (some .exportSchema) ⟨call, some (.next, text value)⟩ :=
      ⟨fits, valued, fun other here => by
        cases here
        exact plain value rfl⟩
    have reads := items_spelling spelled arguments
    rw [Spelling.items, alone] at reads
    exact reads

/-- The switch for all formats is read as itself. -/
theorem items_all (given : Bool) :
    items (some .exportSchema) ((if given then ["--all"] else []) ++ arguments) =
      (if given then [.switch .all] else []) ++ items (some .exportSchema) arguments := by
  cases given with
  | false => rfl
  | true =>
    have spelled : Spelling.Fits (some .exportSchema) ⟨.named .all, none⟩ := by decide
    exact items_spelling spelled arguments

end Items

/-- The items in the arguments that ask for an export. -/
def exportItems (request : ExportRequest) : List Item :=
  .operand request.schema ::
    ((request.format.toList.map fun format => .setting .format format.word false) ++
      ((request.out.toList.map fun path => .setting .out path false) ++
        ((if request.all then [.switch .all] else []) ++
          (request.outDir.toList.map fun path => .setting .outDir path false))))

/-- The arguments of an export are read as its command and then as its items. -/
theorem items_exportArguments {request : ExportRequest} (sound : request.IsSound) :
    items none (exportArguments request) =
      [.command "export" (exportArguments request).tail] ∧
    items (some .exportSchema) (exportArguments request).tail = exportItems request := by
  have words : ∀ format ∈ request.format, looksLikeOption format.word = false := by
    intro format _
    cases format <;> decide
  have format : (Call.lettered [] .format).Fits (some .exportSchema) := by decide
  have out : (Call.named .out).Fits (some .exportSchema) := by decide
  have outDir : (Call.named .outDir).Fits (some .exportSchema) := by decide
  have formats := items_maybe format rfl rfl Format.word request.format words
  have outs := items_maybe out rfl rfl (fun path => path) request.out fun path given =>
    (sound.out path given).2
  have outDirs := items_maybe outDir rfl rfl (fun path => path) request.outDir
    (fun path given => (sound.outDir path given).2) []
  refine ⟨rfl, ?_⟩
  unfold exportArguments exportItems
  rw [List.append_nil, items, List.append_nil] at outDirs
  rw [List.tail_cons, items_operand sound.schema.2 rfl]
  refine congrArg _ ?_
  refine (formats _).trans (congrArg _ ?_)
  refine (outs _).trans (congrArg _ ?_)
  rw [items_all]
  exact congrArg _ outDirs

/-- The word of a format is read as that format. -/
theorem ofChoice?_word (format : Format) : Format.ofChoice? format.word = some format := by
  cases format <;> decide

section Drafts

variable {draft : Draft}

/-- An option that may be left out is taken by a draft that has not got it yet. -/
theorem take_maybe {α : Type} (item : α → Item) (given : Option α) (taken : Option α → Draft)
    (unset : taken none = draft)
    (step : ∀ value ∈ given, draft.take (some .exportSchema) (item value) =
      .ok (taken (some value))) :
    (given.toList.map item).foldlM (Draft.take (some .exportSchema)) draft = .ok (taken given) := by
  cases given with
  | none =>
    rw [unset]
    rfl
  | some value =>
    rw [Option.toList_some, List.map_singleton, List.foldlM_cons, step value rfl]
    rfl

/-- The schema is taken if there is none yet. -/
theorem take_operand {path : String} (taken : IsPath path) (free : draft.schema = none) :
    draft.take (some .exportSchema) (.operand path) = .ok { draft with schema := some path } := by
  rw [Draft.take, Draft.takeOperand, pathGiven_eq_ok_iff.mpr ⟨taken.1, rfl⟩]
  · rfl
  · exact free

/-- A format is taken if there is none yet. -/
theorem take_format (format : Format) (free : draft.format = none) :
    draft.take (some .exportSchema) (.setting .format format.word false) =
      .ok { draft with format := some format } := by
  rw [Draft.take, Draft.set, wordGiven, ofChoice?_word, free]
  rfl

/-- An output is taken if there is none yet. -/
theorem take_out {path : String} (taken : IsPath path) (free : draft.out = none) :
    draft.take (some .exportSchema) (.setting .out path false) =
      .ok { draft with out := some path } := by
  rw [Draft.take, Draft.set, pathGiven_eq_ok_iff.mpr ⟨taken.1, rfl⟩, free]
  rfl

/-- A directory is taken if there is none yet. -/
theorem take_outDir {path : String} (taken : IsPath path) (free : draft.outDir = none) :
    draft.take (some .exportSchema) (.setting .outDir path false) =
      .ok { draft with outDir := some path } := by
  rw [Draft.take, Draft.set, pathGiven_eq_ok_iff.mpr ⟨taken.1, rfl⟩, free]
  rfl

/-- The switch for all formats is taken once. -/
theorem take_all (draft : Draft) (given : Bool) (free : draft.all = false) :
    ((if given then [.switch .all] else []) : List Item).foldlM
      (Draft.take (some .exportSchema)) draft = .ok { draft with all := given } := by
  cases given with
  | false =>
    obtain ⟨config, verbosity, format, out, all, outDir, schema, kind⟩ := draft
    rw [show all = false from free]
    rfl
  | true =>
    change (Draft.take (some .exportSchema) draft (.switch .all) >>= pure) = _
    rw [Draft.take, Draft.switch, free]
    rfl

end Drafts

/-- The draft with all that a request says. -/
def draftOf (request : ExportRequest) : Draft where
  schema := some request.schema
  format := request.format
  out := request.out
  all := request.all
  outDir := request.outDir

/-- The items of a sound request are all taken, and they give its draft. -/
theorem take_exportItems {request : ExportRequest} (sound : request.IsSound) :
    (exportItems request).foldlM (Draft.take (some .exportSchema)) {} = .ok (draftOf request) := by
  obtain ⟨schema, format, out, all, outDir⟩ := request
  have formats := take_maybe (fun format : Format => .setting .format format.word false) format
    (fun format => { schema := some schema, format }) rfl fun value _ => take_format value rfl
  have outs := take_maybe (fun path => .setting .out path false) out
    (fun out => { schema := some schema, format, out }) rfl fun path given =>
      take_out (sound.out path given) rfl
  have alls := take_all { schema := some schema, format, out } all rfl
  have outDirs := take_maybe (fun path => .setting .outDir path false) outDir
    (fun outDir => { schema := some schema, format, out, all, outDir }) rfl fun path given =>
      take_outDir (sound.outDir path given) rfl
  rw [exportItems, List.foldlM_cons, take_operand sound.schema rfl]
  change List.foldlM _ _ (_ ++ (_ ++ (_ ++ _))) = _
  rw [List.foldlM_append, formats]
  change List.foldlM _ _ (_ ++ (_ ++ _)) = _
  rw [List.foldlM_append, outs]
  change List.foldlM _ _ (_ ++ _) = _
  rw [List.foldlM_append, alls]
  exact outDirs

/-- The draft of a sound request gives that request. -/
theorem exportRequest_draftOf {request : ExportRequest} (sound : request.IsSound) :
    (draftOf request).exportRequest = .ok request := by
  obtain ⟨schema, format, out, all, outDir⟩ := request
  cases all with
  | false => rfl
  | true =>
    obtain ⟨noFormat, noOut, directory⟩ := sound.all rfl
    obtain ⟨path, given⟩ := Option.ne_none_iff_exists'.mp directory
    cases noFormat
    cases noOut
    cases given
    rfl

/-- The arguments of a sound request ask for it. -/
theorem asks_exportArguments {request : ExportRequest} (sound : request.IsSound) :
    Asks (exportArguments request) standardConfig request := by
  obtain ⟨before, behind⟩ := items_exportArguments sound
  have command : readCommand .exportSchema (exportArguments request).tail =
      .ok (draftOf request, .exportSchema request) := by
    rw [readCommand, behind, take_exportItems sound]
    change (((draftOf request).exportRequest.map Command.exportSchema).mapError _ >>= _) = _
    rw [exportRequest_draftOf sound]
    rfl
  refine ⟨0, ?_⟩
  rw [Invocation.ofArguments, before]
  change (readCommand .exportSchema (exportArguments request).tail >>= _) = _
  rw [command]
  rfl

end SchemaPress.CommandLine
