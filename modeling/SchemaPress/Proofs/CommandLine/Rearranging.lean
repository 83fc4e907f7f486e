import SchemaPress.Proofs.CommandLine.ExportLines
import SchemaPress.Proofs.CommandLine.Reporting

/-!
# Exports written in another order

Arguments that are read as an export are written in a line, and there the order of the options does
not count, nor how they are spelled. Nor does it count on which side of the command the options of
the whole program stand, as long as none of them stands on both sides (`isReadAsExport`). If one
does, the side behind the command counts, so that to move it may change what is read or make it
unreadable (`moved_config_refused`). In any case all formats are requested only with a directory, so
no run fails for the want of it.
-/

set_option autoImplicit false

namespace SchemaPress.CommandLine

/-! ## What stands before the command -/

/-- Says that an item is of an option of the whole program. -/
structure Item.IsGlobal (item : Item) : Prop where
  operand : item.operand? = none
  all : item ≠ .switch .all
  value : ∀ flag, flag ≠ .config → item.valueOf? flag = none

/-- What is spelt before the command is for all commands. -/
theorem Spelling.isGlobal {spelling : Spelling} (fits : spelling.Fits none) :
    ∀ item ∈ spelling.items, item.IsGlobal := by
  have switch {flag : Flag} (known : flag ∈ flags none) : (Item.switch flag).IsGlobal := by
    refine ⟨rfl, ?_, fun _ _ => rfl⟩
    rintro same
    obtain rfl := Item.switch.inj same
    revert known
    decide
  have known := fits.call.known
  rw [List.forall_mem_append, List.forall_mem_singleton] at known
  obtain ⟨call, value⟩ := spelling
  refine List.forall_mem_append.mpr ⟨fun item mem => ?_, List.forall_mem_singleton.mpr ?_⟩
  · obtain ⟨flag, here, rfl⟩ := List.mem_map.mp mem
    exact switch (known.1 flag here)
  · cases value with
    | none => exact switch known.2
    | some given =>
      have valued : true = call.flag.hasValue := fits.valued
      have config : call.flag = .config := by
        have only : ∀ flag ∈ flags none, true = flag.hasValue → flag = .config := by decide
        exact only _ known.2 valued
      refine ⟨rfl, nofun, fun flag other => ?_⟩
      simp [Item.valueOf?, config, other.symm]

section Globals

variable {items : List Item}

/-- Items for all commands give no value to any option but that of the settings. -/
theorem valuesOf_eq_nil (global : ∀ item ∈ items, item.IsGlobal) {flag : Flag}
    (other : flag ≠ .config) : valuesOf flag items = [] :=
  List.filterMap_eq_nil_iff.mpr fun item mem => (global item mem).value flag other

/-- They do not ask for all formats. -/
theorem timesOf_all_eq_zero (global : ∀ item ∈ items, item.IsGlobal) : timesOf .all items = 0 :=
  List.count_eq_zero.mpr fun mem => (global _ mem).all rfl

/-- They name no schema. -/
theorem operandsOf_eq_nil (global : ∀ item ∈ items, item.IsGlobal) : operandsOf items = [] :=
  List.filterMap_eq_nil_iff.mpr fun item mem => (global item mem).operand

/-- An option that is taken on one side can be taken on the other. -/
theorem isTaken_of_isTaken {side other : Side} {item : Item} (option : item.operand? = none)
    (taken : IsTaken side item) : IsTaken other item := by
  cases item with
  | operand text => cases option
  | _ => exact taken

end Globals

/-- Of one item at most there is one order. -/
theorem eq_of_perm_of_length_le_one {α : Type} {xs ys : List α} (perm : xs.Perm ys)
    (single : xs.length ≤ 1) : xs = ys := by
  match xs, single with
  | [], _ => exact (List.nil_perm.mp perm).symm
  | [x], _ => exact List.singleton_perm.mp perm

namespace ExportLine

variable {line other : ExportLine} {request : ExportRequest}

/-- The items before the command of a line are for all commands. -/
theorem isGlobal_itemsBefore (line : ExportLine) : ∀ item ∈ line.itemsBefore, item.IsGlobal := by
  intro item mem
  obtain ⟨spelling, here, there⟩ := List.mem_flatMap.mp mem
  exact Spelling.isGlobal (line.before_fits spelling here) item there

/-- All items of a line. -/
def items (line : ExportLine) : List Item :=
  line.itemsBefore ++ line.itemsBehind

/-- Says that the options before the command and what stands behind it have been permuted. -/
structure IsReordered (line other : ExportLine) : Prop where
  before : SayAlike line.itemsBefore other.itemsBefore
  behind : SayAlike line.itemsBehind other.itemsBehind

/-- Says that options have been permuted and moved from one side of the command to the other. -/
def IsRearranged (line other : ExportLine) : Prop :=
  SayAlike line.items other.items

/-- Says that no option of the whole program stands on both sides of the command. -/
structure IsOneSided (line : ExportLine) : Prop where
  config : valuesOf .config line.itemsBefore = [] ∨ valuesOf .config line.itemsBehind = []
  verbose : timesOf .verbose line.itemsBefore = 0 ∨ timesOf .verbose line.itemsBehind = 0

/-- Says that the settings are named once at most on each side of the command. -/
structure NamesConfigOnce (line : ExportLine) : Prop where
  before : (valuesOf .config line.itemsBefore).length ≤ 1
  behind : (valuesOf .config line.itemsBehind).length ≤ 1

/-! ## Options of a command -/

section Behind

variable (line : ExportLine)

/-- All values but those for the settings are given behind the command. -/
theorem valuesOf_items {flag : Flag} (apart : flag ≠ .config) :
    valuesOf flag line.items = valuesOf flag line.itemsBehind := by
  rw [items, valuesOf_append, valuesOf_eq_nil line.isGlobal_itemsBefore apart, List.nil_append]

/-- So is the switch for all formats. -/
theorem timesOf_all_items : timesOf .all line.items = timesOf .all line.itemsBehind := by
  rw [items, timesOf_append, timesOf_all_eq_zero line.isGlobal_itemsBefore, Nat.zero_add]

/-- So is the schema. -/
theorem operandsOf_items : operandsOf line.items = operandsOf line.itemsBehind := by
  rw [items, operandsOf_append, operandsOf_eq_nil line.isGlobal_itemsBefore, List.nil_append]

end Behind

/-- The items of a line with a request are all taken behind the command. -/
theorem Requests.taken (requests : line.Requests request) :
    ∀ item ∈ line.items, IsTaken (some .exportSchema) item :=
  List.forall_mem_append.mpr ⟨fun item mem =>
    isTaken_of_isTaken (line.isGlobal_itemsBefore item mem).operand
      (requests.before.taken item mem), requests.behind.taken⟩

section Rearranged

variable (requests : line.Requests request) (rearranged : line.IsRearranged other)

include rearranged

/-- A rearranged line asks for all formats where the line does. -/
theorem timesOf_all_behind : timesOf .all other.itemsBehind = timesOf .all line.itemsBehind := by
  have same := rearranged.timesOf .all
  rw [timesOf_all_items, timesOf_all_items] at same
  exact same.symm

include requests

/-- Its options have the same values. -/
theorem valuesOf_behind {flag : Flag} (apart : flag ≠ .config) :
    valuesOf flag other.itemsBehind = valuesOf flag line.itemsBehind := by
  have perm := rearranged.valuesOf flag
  rw [valuesOf_items line apart, valuesOf_items other apart] at perm
  exact (eq_of_perm_of_length_le_one perm (requests.behind.value flag)).symm

/-- Its schema is the same. -/
theorem operandsOf_behind : operandsOf other.itemsBehind = operandsOf line.itemsBehind := by
  have perm := rearranged.operandsOf
  rw [operandsOf_items, operandsOf_items] at perm
  exact (eq_of_perm_of_length_le_one perm requests.behind.operand).symm

/-- What only the command takes is the same wherever the options of the whole program stand. -/
theorem exportRequest_behind :
    (Draft.ofItems other.itemsBehind).exportRequest = .ok request := by
  have values (flag : Flag) (apart : flag ≠ .config) :
      valuesOf flag other.itemsBehind = valuesOf flag line.itemsBehind :=
    valuesOf_behind requests rearranged apart
  have same : Draft.ofItems other.itemsBehind =
      { Draft.ofItems line.itemsBehind with
        config := (valuesOf .config other.itemsBehind).head?
        verbosity := min (timesOf .verbose other.itemsBehind) greatestVerbosity } := by
    rw [Draft.ofItems, values .format (by decide), values .out (by decide),
      values .outDir (by decide),
      timesOf_all_behind rearranged, operandsOf_behind requests rearranged]
    rfl
  rw [same, ← requests.request]
  rfl

/-- Where options have been moved, the export is the same, and the line is read exactly if the
settings are still named once at most on each side. -/
theorem requests_iff_namesConfigOnce : other.Requests request ↔ other.NamesConfigOnce := by
  constructor
  · intro again
    exact ⟨again.before.value .config, again.behind.value .config⟩
  · intro once
    have taken := List.forall_mem_append.mp (rearranged.taken requests.taken)
    have global := other.isGlobal_itemsBefore
    have before : Consistent none other.itemsBefore := by
      constructor
      · intro item mem
        exact isTaken_of_isTaken (global item mem).operand (taken.1 item mem)
      · intro flag
        by_cases config : flag = .config
        · exact config ▸ once.before
        · simp [valuesOf_eq_nil global config]
      · simp [timesOf_all_eq_zero global]
      · simp [operandsOf_eq_nil global]
    have behind : Consistent (some .exportSchema) other.itemsBehind := by
      constructor
      · exact taken.2
      · intro flag
        by_cases config : flag = .config
        · exact config ▸ once.behind
        · rw [valuesOf_behind requests rearranged config]
          exact requests.behind.value flag
      · rw [timesOf_all_behind rearranged]
        exact requests.behind.all
      · rw [operandsOf_behind requests rearranged]
        exact requests.behind.operand
    exact ⟨before, behind, exportRequest_behind requests rearranged⟩

/-- Where options have been moved, just what is said twice can make a difference. -/
theorem ofArguments_rearranged_eq_ok_iff {invocation : Invocation} :
    Invocation.ofArguments other.arguments = .ok invocation ↔
      other.NamesConfigOnce ∧ invocation = other.invocation request := by
  rw [other.ofArguments_eq_ok_iff, ← requests_iff_namesConfigOnce requests rearranged]
  constructor
  · rintro ⟨request', again, rfl⟩
    have same : request' = request :=
      Except.ok.inj (again.request.symm.trans (exportRequest_behind requests rearranged))
    rw [same] at again ⊢
    exact ⟨again, rfl⟩
  · rintro ⟨again, rfl⟩
    exact ⟨request, again, rfl⟩

end Rearranged

/-! ## Options that stay on one side -/

/-- Items in another order are rearranged. -/
theorem IsReordered.isRearranged (reordered : line.IsReordered other) :
    line.IsRearranged other := by
  rw [IsRearranged, SayAlike, items, items, List.map_append, List.map_append]
  exact List.Perm.append reordered.before reordered.behind

/-- Options that are permuted as they are written say the same. -/
theorem isReordered_of_perm (before : line.before.Perm other.before)
    (behind : line.behind.Perm other.behind) (operands : line.operands = other.operands) :
    line.IsReordered other := by
  constructor
  · exact (before.flatMap_right Spelling.items).map Item.said
  · have ending : line.ending = other.ending := congrArg endingWith operands
    rw [itemsBehind, itemsBehind, ending]
    exact ((behind.flatMap_right Part.items).append_right _).map Item.said

/-- Permuted options are read as before. -/
theorem ofArguments_of_isReordered (requests : line.Requests request)
    (reordered : line.IsReordered other) :
    Invocation.ofArguments other.arguments = .ok (line.invocation request) := by
  have before : valuesOf .config line.itemsBefore = valuesOf .config other.itemsBefore :=
    eq_of_perm_of_length_le_one (reordered.before.valuesOf .config) (requests.before.value .config)
  have behind : valuesOf .config line.itemsBehind = valuesOf .config other.itemsBehind :=
    eq_of_perm_of_length_le_one (reordered.behind.valuesOf .config) (requests.behind.value .config)
  rw [ofArguments_rearranged_eq_ok_iff requests reordered.isRearranged]
  constructor
  · constructor
    · exact before ▸ requests.before.value .config
    · exact behind ▸ requests.behind.value .config
  · rw [invocation, invocation, config, config, before, behind, verbosity, verbosity,
      reordered.before.timesOf, reordered.behind.timesOf]

/-- Where the settings are named on one side only, they are those named anywhere. -/
theorem config_of_isOneSided (oneSided : line.IsOneSided) :
    line.config = (valuesOf .config line.items).headD standardConfig := by
  rw [config, items, valuesOf_append]
  rcases oneSided.config with before | behind
  · rw [before, List.append_nil, List.nil_append]
  · rw [behind, List.append_nil, List.nil_append]

/-- Where the log is asked for on one side only, it counts how often that is done anywhere. -/
theorem verbosity_of_isOneSided (oneSided : line.IsOneSided) :
    line.verbosity = min (timesOf .verbose line.items) greatestVerbosity := by
  rw [items, timesOf_append]
  rcases oneSided.verbose with before | behind
  · by_cases silent : timesOf .verbose line.itemsBehind = 0
    · simp [verbosity, silent]
    · simp [verbosity, silent, before]
  · simp [verbosity, behind]

/-- Options that are moved across the command are read as before if each option of the whole program
stands on one side of it, before and after. -/
theorem ofArguments_of_isOneSided (requests : line.Requests request)
    (rearranged : line.IsRearranged other) (here : line.IsOneSided) (there : other.IsOneSided) :
    Invocation.ofArguments other.arguments = .ok (line.invocation request) := by
  have single : (valuesOf .config line.items).length ≤ 1 := by
    rw [items, valuesOf_append]
    rcases here.config with before | behind
    · rw [before, List.nil_append]
      exact requests.behind.value .config
    · rw [behind, List.append_nil]
      exact requests.before.value .config
  have same : valuesOf .config line.items = valuesOf .config other.items :=
    eq_of_perm_of_length_le_one (rearranged.valuesOf .config) single
  have once : (valuesOf .config other.itemsBefore).length +
      (valuesOf .config other.itemsBehind).length ≤ 1 := by
    rw [← List.length_append, ← valuesOf_append]
    exact same ▸ single
  rw [ofArguments_rearranged_eq_ok_iff requests rearranged]
  constructor
  · exact ⟨(Nat.le_add_right _ _).trans once, (Nat.le_add_left _ _).trans once⟩
  · rw [invocation, invocation, config_of_isOneSided here, config_of_isOneSided there,
      verbosity_of_isOneSided here, verbosity_of_isOneSided there, same, rearranged.timesOf]

end ExportLine

/-! ## Arguments that are read as an export -/

/-- Says what holds of arguments that are read as an export. -/
structure IsReadAsExport (arguments : List String) (request : ExportRequest) : Prop where
  /-- All formats are requested only with a directory, and neither with one format nor with one
  file. -/
  all : request.all = true →
    request.format = none ∧ request.out = none ∧ ∃ directory, request.outDir = some directory
  /-- So no run tells that it fails because that directory is not given. -/
  directed : ∀ tree : FileTree, .told (Failure.report ⟨"--all requires --out-dir", none⟩) ∉
    ((run arguments : StateM FileTree _) tree).1.notices
  /-- The arguments are written in a line. -/
  written : ∃ line : ExportLine, line.arguments = arguments
  /-- What is written on each side of the command can be permuted. -/
  permuted : ∀ line other : ExportLine, line.arguments = arguments →
    line.before.Perm other.before → line.behind.Perm other.behind →
    line.operands = other.operands →
    Invocation.ofArguments other.arguments = Invocation.ofArguments arguments
  /-- It can also be spelled in another way. -/
  reordered : ∀ line other : ExportLine, line.arguments = arguments → line.IsReordered other →
    Invocation.ofArguments other.arguments = Invocation.ofArguments arguments
  /-- The options of the whole program can be moved across the command if each of them stands on one
  side of it, before and after. -/
  moved : ∀ line other : ExportLine, line.arguments = arguments → line.IsRearranged other →
    line.IsOneSided → other.IsOneSided →
    Invocation.ofArguments other.arguments = Invocation.ofArguments arguments
  /-- Wherever they are moved, the request is the same, what stands behind the command counts, and
  the arguments are read exactly if the settings are named once at most on each side. -/
  rearranged : ∀ line other : ExportLine, line.arguments = arguments → line.IsRearranged other →
    ∀ invocation, Invocation.ofArguments other.arguments = .ok invocation ↔
      other.NamesConfigOnce ∧ invocation = ⟨other.config, other.verbosity, .exportSchema request⟩

/-- Arguments that are read as an export never run into a missing directory, and neither their order
nor their spelling counts, but for options of the whole program on both sides of the command. -/
theorem isReadAsExport {arguments : List String} {config : String} {verbosity : Nat}
    {request : ExportRequest}
    (reads : Invocation.ofArguments arguments = .ok ⟨config, verbosity, .exportSchema request⟩) :
    IsReadAsExport arguments request := by
  have requests (line : ExportLine) (written : line.arguments = arguments) :
      line.Requests request ∧ Invocation.ofArguments arguments = .ok (line.invocation request) := by
    rw [← written] at reads
    obtain ⟨request', requests, same⟩ := line.ofArguments_eq_ok_iff.mp reads
    obtain rfl : request = request' := Command.exportSchema.inj (congrArg Invocation.command same)
    exact ⟨requests, by rw [← written, reads, same]⟩
  have written := ExportLine.exists_line reads
  have all : request.all = true → request.format = none ∧ request.out = none ∧
      ∃ directory, request.outDir = some directory := by
    obtain ⟨line, here⟩ := written
    exact all_of_exportRequest_eq_ok (requests line here).1.request
  have reordered (line other : ExportLine) (here : line.arguments = arguments)
      (reordered : line.IsReordered other) :
      Invocation.ofArguments other.arguments = Invocation.ofArguments arguments := by
    rw [(requests line here).2]
    exact ExportLine.ofArguments_of_isReordered (requests line here).1 reordered
  constructor
  case all => exact all
  case directed =>
    intro tree fails
    have worded : ((run arguments : StateM FileTree _) tree).1.IsWorded := by
      rw [run_of_reads reads]
      refine Outcome.IsWorded.upTo (always_runExport config (fun given none => ?_) tree) _
      obtain ⟨-, -, directory, some⟩ := all given
      rw [none] at some
      cases some
    exact worded _ fails _ rfl (by decide)
  case written => exact written
  case permuted =>
    intro line other here before behind operands
    exact reordered line other here (ExportLine.isReordered_of_perm before behind operands)
  case reordered => exact reordered
  case moved =>
    intro line other here rearranged oneSided oneSided'
    rw [(requests line here).2]
    exact ExportLine.ofArguments_of_isOneSided (requests line here).1 rearranged oneSided oneSided'
  case rearranged =>
    intro line other here rearranged invocation
    exact ExportLine.ofArguments_rearranged_eq_ok_iff (requests line here).1 rearranged

/-- An export of all formats, and the same with each option in another place and spelling. -/
theorem isReadAsExport_all :
    let arguments := ["-v", "export", "--all", "s.json", "--out-dir=out", "--config", "c.json"]
    let request : ExportRequest := { schema := "s.json", all := true, outDir := some "out" }
    Invocation.ofArguments arguments = .ok ⟨"c.json", 1, .exportSchema request⟩ ∧
    IsReadAsExport arguments request ∧
    Invocation.ofArguments
        ["--config=c.json", "export", "--out-dir", "out", "s.json", "--verbose", "--all"] =
      Invocation.ofArguments arguments := by
  intro arguments request
  let line : ExportLine :=
    { before := [⟨.lettered [] .verbose, none⟩]
      behind := [.options ⟨.named .all, none⟩, .operand "s.json",
        .options ⟨.named .outDir, some (.equals, "out")⟩,
        .options ⟨.named .config, some (.next, "c.json")⟩]
      before_fits := by decide +kernel
      behind_fits := by decide +kernel }
  let other : ExportLine :=
    { before := [⟨.named .config, some (.equals, "c.json")⟩]
      behind := [.options ⟨.named .outDir, some (.next, "out")⟩, .operand "s.json",
        .options ⟨.named .verbose, none⟩, .options ⟨.named .all, none⟩]
      before_fits := by decide +kernel
      behind_fits := by decide +kernel }
  have reads : Invocation.ofArguments arguments = .ok ⟨"c.json", 1, .exportSchema request⟩ := by
    decide +kernel
  have rearranged : line.IsRearranged other := by
    rw [ExportLine.IsRearranged, SayAlike]
    decide +kernel
  have oneSided : line.IsOneSided := ⟨.inl rfl, .inr rfl⟩
  have oneSided' : other.IsOneSided := ⟨.inr rfl, .inl rfl⟩
  have stands := isReadAsExport reads
  exact ⟨reads, stands, stands.moved line other rfl rearranged oneSided oneSided'⟩

/-- Where the settings are named on both sides of the command, one of them cannot be moved. -/
theorem moved_config_refused :
    ∃ line other : ExportLine,
      line.arguments = ["--config", "c.json", "export", "--config", "d.json", "s.json"] ∧
      other.arguments = ["--config", "c.json", "--config", "d.json", "export", "s.json"] ∧
      line.IsRearranged other ∧
      Invocation.ofArguments line.arguments =
        .ok ⟨"d.json", 0, .exportSchema { schema := "s.json" }⟩ ∧
      Invocation.ofArguments other.arguments = .error (.refused (.repeated .config)) := by
  let one : Spelling := ⟨.named .config, some (.next, "c.json")⟩
  let two : Spelling := ⟨.named .config, some (.next, "d.json")⟩
  let line : ExportLine :=
    { before := [one]
      behind := [.options two, .operand "s.json"]
      before_fits := by decide +kernel
      behind_fits := by decide +kernel }
  let other : ExportLine :=
    { before := [one, two]
      behind := [.operand "s.json"]
      before_fits := by decide +kernel
      behind_fits := by decide +kernel }
  have rearranged : line.IsRearranged other := by
    rw [ExportLine.IsRearranged, SayAlike]
    decide +kernel
  exact ⟨line, other, rfl, rfl, rearranged, by decide +kernel, by decide +kernel⟩

end SchemaPress.CommandLine
