import SchemaPress.Proofs.CommandLine.Notices
import SchemaPress.Proofs.Loading

/-!
# What an export reports

Whatever goes wrong in an export, the report tells in words what could not be done. It is about an
option only where all formats are asked for without a directory (`always_runExport`).
-/

set_option autoImplicit false

namespace SchemaPress

/-- Says that a failure is told in words, and not about an option. -/
def Failure.IsWorded (failure : Failure) : Prop :=
  failure.context.toList.head?.any (· ≠ '-') = true

namespace CommandLine

/-- Says that a piece is not the report of a failure that is about an option. -/
def Notice.IsWorded (notice : Notice) : Prop :=
  ∀ text, notice = .told text → ¬ "Error: -".toList <+: text.toList

/-- Says that all that an outcome reports is told in words. -/
def Outcome.IsWorded (outcome : Outcome) : Prop :=
  ∀ notice ∈ outcome.notices, notice.IsWorded

/-- Behind pieces that are told in words an outcome is still told in words. -/
theorem Outcome.IsWorded.behind {outcome : Outcome} {notices : List Notice}
    (worded : outcome.IsWorded) (before : ∀ notice ∈ notices, notice.IsWorded) :
    (outcome.behind notices).IsWorded := by
  intro notice mem
  rcases List.mem_append.mp mem with mem | mem
  · exact before notice mem
  · exact worded notice mem

/-- With less of its log an outcome is still told in words. -/
theorem Outcome.IsWorded.upTo {outcome : Outcome} (worded : outcome.IsWorded) (most : LogLevel) :
    (outcome.upTo most).IsWorded := fun notice mem =>
  worded notice (List.mem_filter.mp mem).1

/-- The log is told in words. -/
theorem isWorded_logged (entry : LogEntry) : (Notice.logged entry).IsWorded := by
  intro text told
  cases told

/-- Says that a program answers with a value of some kind, whatever files there are. -/
def Always {α : Type} (Kind : α → Prop) (program : StateM FileTree α) : Prop :=
  ∀ tree, Kind (program tree).1

section Rules

variable {α β : Type} {Kind : α → Prop} {Next : β → Prop}

/-- A program that answers at once answers so always. -/
theorem Always.pure {value : α} (holds : Kind value) :
    Always Kind (Pure.pure value : StateM FileTree α) := fun _ =>
  holds

/-- A program answers as what comes last in it does. -/
theorem Always.bind {first : StateM FileTree α} {next : α → StateM FileTree β}
    (answers : Always Kind first) (goesOn : ∀ value, Kind value → Always Next (next value)) :
    Always Next (first >>= next) := fun tree =>
  goesOn (first tree).1 (answers tree) (first tree).2

/-- Of some programs nothing is said. -/
theorem always_true (program : StateM FileTree α) : Always (fun _ => True) program := fun _ =>
  trivial

end Rules

/-- Says that a result is not an error, or one that is told in words. -/
def WordedError {α : Type} (result : Except Failure α) : Prop :=
  ∀ failure, result = .error failure → failure.IsWorded

/-! ## Failures -/

/-- A failure is told in words if its context begins with some. -/
theorem isWorded_context {words : String} (first : words.toList.head?.any (· ≠ '-') = true)
    (more : String) (cause : Option String) : (Failure.mk (words ++ more) cause).IsWorded := by
  rw [Failure.IsWorded, String.toList_append]
  cases layout : words.toList with
  | nil =>
    rw [layout] at first
    cases first
  | cons c cs =>
    rw [layout] at first
    exact first

/-- The report of a failure that is told in words is told in words. -/
theorem isWorded_ofFailure {failure : Failure} (worded : failure.IsWorded) :
    (Outcome.ofFailure failure).IsWorded := by
  refine List.forall_mem_singleton.mpr fun text told dash => ?_
  obtain rfl := Notice.told.inj told
  obtain ⟨rest, report⟩ : ∃ rest, failure.report = "Error: " ++ (failure.context ++ rest) := by
    rw [Failure.report, String.append_assoc, String.append_assoc]
    exact ⟨_, rfl⟩
  have begins : ['-'] <+: (failure.context ++ rest).toList := by
    refine (List.prefix_append_right_inj "Error: ".toList).mp ?_
    rw [← String.toList_append, ← report]
    exact dash
  rw [Failure.IsWorded] at worded
  rw [String.toList_append] at begins
  cases layout : failure.context.toList with
  | nil =>
    rw [layout] at worded
    cases worded
  | cons c cs =>
    rw [layout] at worded begins
    have same := (List.cons_prefix_cons.mp begins).1
    exact of_decide_eq_true worded same.symm

/-- An error with a context that is in words is told in words. -/
theorem wordedError_explained {ε α : Type} {words : String}
    (first : words.toList.head?.any (· ≠ '-') = true) (more : String) (message : ε → String)
    (result : Except ε α) : WordedError (explained (words ++ more) message result) := by
  intro failure error
  cases result with
  | ok value => cases error
  | error cause =>
    obtain rfl := Except.error.inj error
    exact isWorded_context first more _

/-- What comes behind a result that is told in words may be an error in words too. -/
theorem WordedError.bind {α β : Type} {first : Except Failure α} {next : α → Except Failure β}
    (worded : WordedError first) (goesOn : ∀ value, WordedError (next value)) :
    WordedError (first >>= next) := by
  intro failure error
  cases first with
  | ok value => exact goesOn value failure error
  | error other =>
    obtain rfl := Except.error.inj error
    exact worded _ rfl

/-- What a result is turned into does not change its error. -/
theorem WordedError.map {α β : Type} {result : Except Failure α} {f : α → β}
    (worded : WordedError result) : WordedError (result.map f) := by
  intro failure error
  cases result with
  | ok value => cases error
  | error other =>
    obtain rfl := Except.error.inj error
    exact worded _ rfl

/-- Settings that cannot be loaded are reported in words. -/
theorem always_openSettings (path : String) :
    Always WordedError (openSettings path : StateM FileTree _) := by
  intro tree
  rw [openSettings_run]
  refine WordedError.map ?_
  rw [loadSettings_run]
  split
  · exact (wordedError_explained rfl path _ _).bind fun text => wordedError_explained rfl path _ _
  · exact nofun

/-- A schema that cannot be loaded is reported in words. -/
theorem always_openSchema (path : String) :
    Always WordedError (openSchema path : StateM FileTree _) := by
  intro tree
  rw [openSchema_run]
  refine WordedError.map ?_
  rw [loadSchema_run]
  refine (wordedError_explained rfl path _ _).bind fun text failure error => ?_
  unfold Schema.ofFile at error
  split at error
  · exact wordedError_explained rfl path _ _ failure error
  · exact wordedError_explained rfl path _ _ failure error
  · obtain rfl := Except.error.inj error
    rw [String.append_assoc]
    exact isWorded_context rfl _ _

/-! ## Runs -/

variable (settings : Settings) (schema : Schema)

/-- A schema that cannot be exported is reported in the words of its context. -/
theorem isWorded_rendered {format : Format} {words more : String} {trouble : Trouble}
    (first : words.toList.head?.any (· ≠ '-') = true)
    (error : rendered settings schema (words ++ more) format = .error trouble) :
    (Outcome.ofTrouble trouble).IsWorded := by
  unfold rendered at error
  split at error
  · cases error
  · rename_i width _
    obtain rfl := Except.error.inj error
    refine List.forall_mem_singleton.mpr fun text told dash => ?_
    obtain rfl := Notice.told.inj told
    change "Error: -".toList <+: ("field width out of range: " ++ toString width ++ "\n").toList
      at dash
    rw [String.append_assoc, String.toList_append] at dash
    exact absurd (List.cons_prefix_cons.mp dash).1 (by decide)
  · obtain rfl := Except.error.inj error
    exact isWorded_ofFailure (isWorded_context first more _)

/-- What is logged and told about a file that has been written is told in words. -/
theorem isWorded_exportedNotices (path : String) (result : Export) :
    ∀ notice ∈ exportedNotices path result, notice.IsWorded := by
  refine List.forall_mem_cons.mpr ⟨isWorded_logged _, List.forall_mem_singleton.mpr ?_⟩
  intro text told dash
  obtain rfl := Notice.told.inj told
  obtain ⟨rest, layout⟩ : ∃ rest, exportedLine path result = "Exported: " ++ rest := by
    simp only [exportedLine, String.append_assoc]
    exact ⟨_, rfl⟩
  rw [layout, String.toList_append] at dash
  exact absurd (List.cons_prefix_cons.mp (List.cons_prefix_cons.mp dash).2).1 (by decide)

/-- A file is told of where it is written, and otherwise what could not be done. -/
theorem always_writeExport (path : String) (result : Export) :
    Always (fun answer => answer = .ok (exportedNotices path result) ∨
      ∃ failure : Failure, failure.IsWorded ∧ answer = .error failure)
      (writeExport path result : StateM FileTree _) := by
  refine (always_true _).bind fun made _ => ?_
  cases made with
  | error error => exact .pure (.inr ⟨_, isWorded_context rfl _ _, rfl⟩)
  | ok _ =>
    refine (always_true _).bind fun wrote _ => ?_
    cases wrote with
    | error error => exact .pure (.inr ⟨_, isWorded_context rfl _ _, rfl⟩)
    | ok _ => exact .pure (.inl rfl)

/-- A run that writes nothing to the standard error tells nothing amiss. -/
theorem isWorded_of_silent {outcome : Outcome} (silent : outcome.notices = []) :
    outcome.IsWorded := by
  rw [Outcome.IsWorded, silent]
  exact List.forall_mem_nil _

/-- What is logged about a rendered schema, and all behind it, is told in words. -/
theorem isWorded_rendered_cons {schema : Schema} {result : Export} {notices : List Notice}
    (worded : ∀ notice ∈ notices, notice.IsWorded) :
    ∀ notice ∈ renderedNotice schema result :: notices, notice.IsWorded :=
  List.forall_mem_cons.mpr ⟨isWorded_logged _, worded⟩

/-- The formats in a directory are written, or what could not be done is told in words. -/
theorem always_writeEach (directory : String) (formats : List Format) :
    Always Outcome.IsWorded
      (writeEach settings schema directory formats : StateM FileTree _) := by
  induction formats with
  | nil => exact .pure (isWorded_of_silent rfl)
  | cons format formats ih =>
    rw [writeEach]
    cases exported : rendered settings schema ("export as " ++ format.word) format with
    | error trouble => exact .pure (isWorded_rendered settings schema rfl exported)
    | ok result =>
      refine (always_writeExport _ result).bind fun answer told => ?_
      rcases told with rfl | ⟨failure, worded, rfl⟩
      · exact ih.bind fun rest told =>
          .pure (told.behind (isWorded_rendered_cons (isWorded_exportedNotices _ _)))
      · exact .pure ((isWorded_ofFailure worded).behind
          (isWorded_rendered_cons (List.forall_mem_nil _)))

/-- So are all formats. -/
theorem always_writeAll (directory : String) :
    Always Outcome.IsWorded (writeAll settings schema directory : StateM FileTree _) := by
  refine (always_true _).bind fun made _ => ?_
  cases made with
  | error error => exact .pure (isWorded_ofFailure (isWorded_context rfl _ _))
  | ok _ => exact always_writeEach settings schema directory Format.all

/-- One format is written or printed, or what could not be done is told in words. -/
theorem always_writeOne (request : ExportRequest) :
    Always Outcome.IsWorded (writeOne settings schema request : StateM FileTree _) := by
  rw [writeOne]
  cases exported : rendered settings schema ("export " ++ request.schema ++ " as " ++
      (request.format.getD settings.defaultFormat).word)
      (request.format.getD settings.defaultFormat) with
  | error trouble =>
    rw [String.append_assoc, String.append_assoc] at exported
    exact .pure (isWorded_rendered settings schema rfl exported)
  | ok result =>
    cases request.out with
    | none => exact .pure (isWorded_rendered_cons (List.forall_mem_nil _))
    | some path =>
      refine (always_writeExport path result).bind fun answer told => ?_
      rcases told with rfl | ⟨failure, worded, rfl⟩
      · exact .pure (isWorded_rendered_cons (isWorded_exportedNotices _ _))
      · exact .pure ((isWorded_ofFailure worded).behind
          (isWorded_rendered_cons (List.forall_mem_nil _)))

/-- What is asked for is written, or what could not be done is told in words. -/
theorem always_writeRequested {request : ExportRequest}
    (directed : request.all = true → request.outDir ≠ none) :
    Always Outcome.IsWorded
      (writeRequested settings schema request : StateM FileTree _) := by
  by_cases all : request.all = true
  · obtain ⟨directory, given⟩ := Option.ne_none_iff_exists'.mp (directed all)
    have written := always_writeAll settings schema directory
    simpa [writeRequested, all, given] using written
  · have written := always_writeOne settings schema request
    simpa [writeRequested, all] using written

/-- What is logged before does not matter to what is told in words. -/
theorem isWorded_behind_log {outcome : Outcome} (worded : outcome.IsWorded)
    (log : List LogEntry) : (outcome.behind (log.map .logged)).IsWorded :=
  worded.behind (List.forall_mem_map.mpr fun entry _ => isWorded_logged entry)

/-- An export under some settings that asks for all formats only with a directory reports nothing
about an option. -/
theorem always_exportUnder {request : ExportRequest}
    (directed : request.all = true → request.outDir ≠ none) :
    Always Outcome.IsWorded (exportUnder settings request : StateM FileTree _) := by
  refine (always_openSchema request.schema).bind fun loaded worded => ?_
  cases loaded with
  | error failure => exact .pure (isWorded_ofFailure (worded failure rfl))
  | ok schema =>
    have written := always_writeRequested settings schema.value directed
    exact written.bind fun outcome told => .pure (isWorded_behind_log told _)

/-- Nor does any other export that asks for all formats only with a directory. -/
theorem always_runExport (config : String) {request : ExportRequest}
    (directed : request.all = true → request.outDir ≠ none) :
    Always Outcome.IsWorded (runExport config request : StateM FileTree _) := by
  refine (always_openSettings config).bind fun loaded worded => ?_
  cases loaded with
  | error failure => exact .pure (isWorded_ofFailure (worded failure rfl))
  | ok settings =>
    have exported := always_exportUnder settings.value directed
    exact exported.bind fun outcome told => .pure (isWorded_behind_log told _)

end CommandLine

end SchemaPress
