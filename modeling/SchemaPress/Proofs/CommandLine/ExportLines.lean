import Mathlib.Data.Set.List
import SchemaPress.Proofs.CommandLine.Drafting
import SchemaPress.Proofs.CommandLine.Spelling

/-!
# Lines of arguments for an export

A line has options before the command `export` and options and operands behind it. All arguments
that are read as an export are written in such a line (`exists_line`), and a line is read exactly if
what stands on each side of the command is consistent and makes up a request
(`ofArguments_eq_ok_iff`).
-/

set_option autoImplicit false

namespace SchemaPress.CommandLine

/-- The command that an item names, with its arguments. -/
def Item.command? : Item → Option (String × List String)
  | command name arguments => some (name, arguments)
  | _ => none

/-- An item is a command if it is one with a name and its arguments. -/
theorem Item.command?_eq_some_iff {item : Item} {name : String} {arguments : List String} :
    item.command? = some (name, arguments) ↔ item = .command name arguments := by
  cases item <;> simp [command?]

section Invocations

variable {draft : Draft} {items : List Item} {invocation : Invocation}

/-- At a command the rest of the arguments is read by it. -/
theorem ofItems_command_eq_ok_iff {name : String} {arguments : List String} :
    Invocation.ofItems draft (.command name arguments :: items) = .ok invocation ↔
      ∃ behind command, readNamed name arguments = .ok (behind, command) ∧
        invocation = .ofSides draft behind command := by
  rw [Invocation.ofItems, bind_eq_ok_iff]
  constructor
  · rintro ⟨⟨behind, command⟩, named, sides⟩
    exact ⟨behind, command, named, (Except.ok.inj sides).symm⟩
  · rintro ⟨behind, command, named, rfl⟩
    exact ⟨(behind, command), named, rfl⟩

/-- Whether a value is looked at before the command is read or after it, the invocation is the same
if there is one. -/
theorem ofItems_cons_eq_ok_iff {item : Item} (option : item.command? = none) :
    Invocation.ofItems draft (item :: items) = .ok invocation ↔
      ∃ next, draft.take none item = .ok next ∧ Invocation.ofItems next items = .ok invocation := by
  by_cases late : ∃ flag value name arguments rest,
      item = .setting flag value false ∧ items = .command name arguments :: rest
  · obtain ⟨flag, value, name, arguments, rest, rfl, rfl⟩ := late
    simp only [ofItems_command_eq_ok_iff]
    rw [Invocation.ofItems, bind_eq_ok_iff]
    constructor
    · rintro ⟨⟨behind, command⟩, named, sides⟩
      obtain ⟨next, taken, rfl⟩ := bind_pure_eq_ok_iff.mp sides
      exact ⟨next, taken, behind, command, named, rfl⟩
    · rintro ⟨next, taken, behind, command, named, rfl⟩
      exact ⟨(behind, command), named, bind_pure_eq_ok_iff.mpr ⟨next, taken, rfl⟩⟩
  · rw [Invocation.ofItems, bind_eq_ok_iff]
    · rintro name arguments rfl
      cases option
    · intro flag value name arguments rest here there
      exact late ⟨flag, value, name, arguments, rest, here, there⟩

/-- An invocation is read exactly if all items up to a command are taken and that command is read.
-/
theorem ofItems_eq_ok_iff :
    Invocation.ofItems draft items = .ok invocation ↔
      ∃ front name arguments rest before behind command,
        items = front ++ .command name arguments :: rest ∧
        front.foldlM (Draft.take none) draft = .ok before ∧
        readNamed name arguments = .ok (behind, command) ∧
        invocation = .ofSides before behind command := by
  constructor
  · intro reads
    induction items generalizing draft with
    | nil => cases reads
    | cons item items ih =>
      cases option : item.command? with
      | none =>
        obtain ⟨next, taken, reads⟩ := (ofItems_cons_eq_ok_iff option).mp reads
        obtain ⟨front, name, arguments, rest, before, behind, command, rfl, folds, named, rfl⟩ :=
          ih reads
        refine ⟨item :: front, name, arguments, rest, before, behind, command, rfl, ?_, named, rfl⟩
        rw [List.foldlM_cons, taken]
        exact folds
      | some given =>
        obtain ⟨name, arguments⟩ := given
        obtain rfl := Item.command?_eq_some_iff.mp option
        obtain ⟨behind, command, named, rfl⟩ := ofItems_command_eq_ok_iff.mp reads
        exact ⟨[], name, arguments, items, draft, behind, command, rfl, rfl, named, rfl⟩
  · rintro ⟨front, name, arguments, rest, before, behind, command, rfl, folds, named, rfl⟩
    induction front generalizing draft with
    | nil =>
      obtain rfl := Except.ok.inj folds
      exact ofItems_command_eq_ok_iff.mpr ⟨behind, command, named, rfl⟩
    | cons item front ih =>
      rw [List.foldlM_cons, bind_eq_ok_iff] at folds
      obtain ⟨next, taken, folds⟩ := folds
      have option : item.command? = none := by
        cases item with
        | command name arguments => cases taken
        | _ => rfl
      exact (ofItems_cons_eq_ok_iff option).mpr ⟨next, taken, ih folds⟩

end Invocations

/-! ## A command is the last item -/

section Commands

variable {side : Side}

/-- A call by name gives no command. -/
theorem command?_ofName {argument : String} {name : List Char} {value : Option String} :
    ∀ item ∈ (ofName side argument name value).items, item.command? = none := by
  unfold ofName
  split
  · simp [Item.command?]
  · split <;> simp [Item.command?]

/-- Nor does a call by letters. -/
theorem command?_ofLetters {argument : String} (cs : List Char) :
    ∀ item ∈ (ofLetters side argument cs).items, item.command? = none := by
  induction cs with
  | nil => exact List.forall_mem_nil _
  | cons c cs ih =>
    unfold ofLetters
    split
    · simp [Item.command?]
    · split
      · split <;> simp [Item.command?]
      · exact List.forall_mem_cons.mpr ⟨rfl, ih⟩

/-- Nor does any call. -/
theorem command?_opening? {argument : String} {opening : Opening}
    (opens : opening? side argument = some opening) :
    ∀ item ∈ opening.items, item.command? = none := by
  unfold opening? at opens
  split at opens
  · obtain rfl := Option.some.inj opens
    exact command?_ofName
  · obtain rfl := Option.some.inj opens
    exact command?_ofLetters _
  · cases opens

/-- No item stands behind a command. -/
theorem pairwise_items (side : Side) (arguments : List String) :
    (items side arguments).Pairwise fun item _ => item.command? = none := by
  fun_induction items side arguments with
  | case1 => exact .nil
  | case2 => exact List.pairwise_singleton _ _
  | case3 texts =>
    exact List.pairwise_map.mpr (List.pairwise_of_forall fun _ _ => rfl)
  | case4 text arguments _ _ _ ih => exact .cons (fun _ _ => rfl) ih
  | case5 argument arguments _ _ opening opens ih =>
    have options := command?_opening? opens
    refine List.pairwise_append.mpr
      ⟨List.pairwise_of_forall_mem_list fun item mem _ _ => options item mem, ?_,
        fun item mem _ _ => options item mem⟩
    split
    · rename_i waiting
      rw [waiting] at ih
      exact ih
    · exact List.pairwise_singleton _ _
    · rename_i waiting
      rw [waiting] at ih
      split
      · exact List.pairwise_singleton _ _
      · exact .cons (fun _ _ => rfl) ih

/-- Nor does any part before the ending. -/
theorem command?_items_part (part : Part) : ∀ item ∈ part.items, item.command? = none := by
  cases part with
  | operand text => simp [Part.items, Item.command?]
  | options spelling =>
    obtain ⟨call, value⟩ := spelling
    refine List.forall_mem_append.mpr ⟨fun item mem => ?_, List.forall_mem_singleton.mpr ?_⟩
    · obtain ⟨switch, -, rfl⟩ := List.mem_map.mp mem
      rfl
    · cases value <;> rfl

/-- Items of parts with a command behind them end with it. -/
theorem ending_eq_command {parts : List Part} {ending : Ending} {front : List Item} {name : String}
    {arguments : List String}
    (split : parts.flatMap Part.items ++ ending.items = front ++ [.command name arguments]) :
    ending = .command name arguments ∧ parts.flatMap Part.items = front := by
  have within : ∀ item ∈ parts.flatMap Part.items, item.command? = none := by
    intro item mem
    obtain ⟨part, -, here⟩ := List.mem_flatMap.mp mem
    exact command?_items_part part item here
  have mem : Item.command name arguments ∈ parts.flatMap Part.items ++ ending.items := by
    simp [split]
  rw [List.mem_append] at mem
  have there := mem.resolve_left fun here => Option.some_ne_none _ (within _ here)
  cases ending with
  | done => cases there
  | operands texts => simp [Ending.items] at there
  | command name' arguments' =>
    obtain ⟨rfl, rfl⟩ := Item.command.inj (List.mem_singleton.mp there)
    exact ⟨rfl, List.append_cancel_right split⟩

/-- A command is the last item. -/
theorem eq_nil_of_items_eq {arguments arguments' : List String} {front rest : List Item}
    {name : String} (split : items side arguments = front ++ .command name arguments' :: rest) :
    rest = [] := by
  have last := pairwise_items side arguments
  rw [split, List.pairwise_append, List.pairwise_cons] at last
  refine List.eq_nil_iff_forall_not_mem.mpr fun item mem => ?_
  exact Option.some_ne_none _ (last.2.1.1 item mem)

end Commands

/-! ## Lines of arguments -/

/-- Arguments that ask for an export, as they are written: with options before the command, options
and operands behind it, and perhaps more operands behind `--`. -/
structure ExportLine where
  before : List Spelling
  behind : List Part
  operands : Option (List String) := none
  before_fits : ∀ spelling ∈ before, spelling.Fits none
  behind_fits : ∀ part ∈ behind, part.Fits (some .exportSchema)

/-- The end of arguments with some operands behind `--`, or without `--`. -/
def endingWith : Option (List String) → Ending
  | none => .done
  | some texts => .operands texts

namespace ExportLine

/-- How a line ends behind its last option. -/
def ending (line : ExportLine) : Ending :=
  endingWith line.operands

/-- The arguments behind the command. -/
def rest (line : ExportLine) : List String :=
  line.behind.flatMap Part.arguments ++ line.ending.arguments

/-- The arguments of a line. -/
def arguments (line : ExportLine) : List String :=
  line.before.flatMap Spelling.arguments ++ Verb.exportSchema.name :: line.rest

/-- The items before the command. -/
def itemsBefore (line : ExportLine) : List Item :=
  line.before.flatMap Spelling.items

/-- The items behind the command. -/
def itemsBehind (line : ExportLine) : List Item :=
  line.behind.flatMap Part.items ++ line.ending.items

variable (line : ExportLine)

/-- A line is read as its items before the command, and the command with the rest. -/
theorem items_arguments :
    items none line.arguments =
      line.itemsBefore ++ [.command Verb.exportSchema.name line.rest] := by
  have parts : ∀ part ∈ line.before.map Part.options, part.Fits none := by
    intro part mem
    obtain ⟨spelling, here, rfl⟩ := List.mem_map.mp mem
    exact line.before_fits spelling here
  have named : (Ending.command Verb.exportSchema.name line.rest).Fits none :=
    (rfl : namesCommand none Verb.exportSchema.name = true)
  have cut := items_segments parts named
  rw [List.flatMap_map, List.flatMap_map] at cut
  exact cut

/-- The rest is read as the items behind the command. -/
theorem items_rest : items (some .exportSchema) line.rest = line.itemsBehind := by
  refine items_segments line.behind_fits ?_
  rw [ending]
  cases line.operands <;> trivial

end ExportLine

/-! ## Lines that are read -/

/-- The command reads its arguments by taking their items and then making its request. -/
theorem readCommand_exportSchema_eq_ok_iff {arguments : List String} {behind : Draft}
    {command : Command} :
    readCommand .exportSchema arguments = .ok (behind, command) ↔
      (items (some .exportSchema) arguments).foldlM (Draft.take (some .exportSchema)) {} =
        .ok behind ∧
      ∃ request, behind.exportRequest = .ok request ∧ command = .exportSchema request := by
  have finish (draft : Draft) :
      ((do return (draft, ← (draft.command .exportSchema).mapError Stop.refused)) :
        Except Stop (Draft × Command)) = .ok (behind, command) ↔
      draft = behind ∧ ∃ request, draft.exportRequest = .ok request ∧
        command = .exportSchema request := by
    rw [bind_pure_eq_ok_iff, Draft.command]
    cases draft.exportRequest with
    | error error => exact iff_of_false nofun fun ⟨_, _, same, _⟩ => nomatch same
    | ok request =>
      change (∃ value, Except.ok (Command.exportSchema request) = .ok value ∧ _) ↔ _
      simp only [Except.ok.injEq, exists_eq_left', Prod.mk.injEq]
      exact ⟨fun ⟨same, read⟩ => ⟨same.symm, read⟩, fun ⟨same, read⟩ => ⟨same.symm, read⟩⟩
  rw [readCommand, bind_eq_ok_iff]
  simp only [finish]
  constructor
  · rintro ⟨draft, folds, rfl, request⟩
    exact ⟨folds, request⟩
  · rintro ⟨folds, request⟩
    exact ⟨behind, folds, rfl, request⟩

/-- All formats are requested only with a directory, and neither with one format nor with one file.
-/
theorem all_of_exportRequest_eq_ok {draft : Draft} {request : ExportRequest}
    (read : draft.exportRequest = .ok request) (all : request.all = true) :
    request.format = none ∧ request.out = none ∧ ∃ directory, request.outDir = some directory := by
  unfold Draft.exportRequest at read
  split at read
  · cases read
  · split at read
    · cases read
    · split at read
      · cases read
      · split at read
        · cases read
        · rename_i noFormat noOut directory _ schema _
          obtain rfl := Except.ok.inj read
          change draft.all = true at all
          simp only [all, Bool.true_and] at noFormat noOut directory
          have given : draft.outDir ≠ none := fun none =>
            directory (Option.isNone_iff_eq_none.mpr none)
          exact ⟨Option.not_isSome_iff_eq_none.mp noFormat, Option.not_isSome_iff_eq_none.mp noOut,
            Option.ne_none_iff_exists'.mp given⟩

namespace ExportLine

/-- Says that a line is read, and which export it requests. -/
structure Requests (line : ExportLine) (request : ExportRequest) : Prop where
  before : Consistent none line.itemsBefore
  behind : Consistent (some .exportSchema) line.itemsBehind
  request : (Draft.ofItems line.itemsBehind).exportRequest = .ok request

/-- The file with the settings: the one that is named behind the command counts. -/
def config (line : ExportLine) : String :=
  (valuesOf .config line.itemsBehind ++ valuesOf .config line.itemsBefore).headD standardConfig

/-- How much is told: the switches behind the command count, if there are any. -/
def verbosity (line : ExportLine) : Nat :=
  let behind := timesOf .verbose line.itemsBehind
  min (if behind = 0 then timesOf .verbose line.itemsBefore else behind) greatestVerbosity

/-- The invocation that is read off a line with a request. -/
def invocation (line : ExportLine) (request : ExportRequest) : Invocation :=
  ⟨line.config, line.verbosity, .exportSchema request⟩

/-- What is said on both sides of the command makes the invocation of a line. -/
theorem ofSides_eq (line : ExportLine) (request : ExportRequest) :
    Invocation.ofSides (Draft.ofItems line.itemsBefore) (Draft.ofItems line.itemsBehind)
      (.exportSchema request) = line.invocation request := by
  have config : ((valuesOf .config line.itemsBehind).head? <|>
      (valuesOf .config line.itemsBefore).head?).getD standardConfig = line.config := by
    rw [ExportLine.config, List.headD_eq_head?_getD, List.head?_append]
    cases (valuesOf .config line.itemsBehind).head? <;> rfl
  have verbosity : (if min (timesOf .verbose line.itemsBehind) greatestVerbosity = 0 then
      min (timesOf .verbose line.itemsBefore) greatestVerbosity
      else min (timesOf .verbose line.itemsBehind) greatestVerbosity) = line.verbosity := by
    by_cases silent : timesOf .verbose line.itemsBehind = 0
    · simp [ExportLine.verbosity, silent]
    · have some : min (timesOf .verbose line.itemsBehind) greatestVerbosity ≠ 0 := by
        rw [greatestVerbosity]
        omega
      rw [if_neg some]
      simp [ExportLine.verbosity, silent]
  rw [invocation, ← config, ← verbosity]
  rfl

/-- Items that are all taken are clean. -/
theorem isClean_of_folds {side : Side} {items : List Item} {draft : Draft}
    (exporting : side ≠ some .jsonSchema)
    (folds : items.foldlM (Draft.take side) {} = .ok draft) : IsClean items := fun error mem =>
  ((foldlM_take_eq_ok_iff exporting).mp folds).1.taken (.refused error) mem

/-- Only `export` is read as an export. -/
theorem readNamed_exportSchema {name : String} {arguments : List String} {behind : Draft}
    {request : ExportRequest}
    (read : readNamed name arguments = .ok (behind, .exportSchema request)) :
    name = Verb.exportSchema.name := by
  unfold readNamed at read
  cases found : Verb.all.find? (·.name == name) with
  | none =>
    rw [found] at read
    cases read
  | some verb =>
    rw [found] at read
    have named : verb.name = name := eq_of_beq (List.find?_some found :)
    obtain ⟨draft, -, made⟩ := bind_eq_ok_iff.mp read
    cases verb with
    | exportSchema => exact named.symm
    | _ => cases made

/-- A line is accepted exactly if it has a request, and then its invocation is made of that. -/
theorem ofArguments_eq_ok_iff (line : ExportLine) {invocation : Invocation} :
    Invocation.ofArguments line.arguments = .ok invocation ↔
      ∃ request, line.Requests request ∧ invocation = line.invocation request := by
  have named (arguments : List String) : readNamed Verb.exportSchema.name arguments =
      readCommand .exportSchema arguments := rfl
  have outside : (none : Side) ≠ some .jsonSchema := nofun
  have exporting : (some .exportSchema : Side) ≠ some .jsonSchema := by decide
  constructor
  · intro reads
    obtain ⟨front, name, arguments, rest, before, behind, command, split, folds, read, rfl⟩ :=
      ofItems_eq_ok_iff.mp reads
    obtain rfl := eq_nil_of_items_eq split
    rw [items_arguments] at split
    obtain ⟨rfl, same⟩ := List.append_inj' split rfl
    obtain ⟨rfl, rfl⟩ := Item.command.inj (List.singleton_inj.mp same)
    rw [named, readCommand_exportSchema_eq_ok_iff, items_rest,
      foldlM_take_eq_ok_iff exporting] at read
    obtain ⟨⟨consistent, rfl⟩, request, requests, rfl⟩ := read
    obtain ⟨consistent', rfl⟩ := (foldlM_take_eq_ok_iff outside).mp folds
    exact ⟨request, ⟨consistent', consistent, requests⟩, line.ofSides_eq request⟩
  · rintro ⟨request, requests, rfl⟩
    rw [Invocation.ofArguments, items_arguments, ofItems_eq_ok_iff]
    refine ⟨line.itemsBefore, _, _, [], Draft.ofItems line.itemsBefore,
      Draft.ofItems line.itemsBehind, _, rfl, ?_, ?_, (line.ofSides_eq request).symm⟩
    · exact (foldlM_take_eq_ok_iff outside).mpr ⟨requests.before, rfl⟩
    · rw [named, readCommand_exportSchema_eq_ok_iff, items_rest]
      exact ⟨(foldlM_take_eq_ok_iff exporting).mpr ⟨requests.behind, rfl⟩, request,
        requests.request, rfl⟩

/-- All arguments that are read as an export are written in a line. -/
theorem exists_line {arguments : List String} {config : String} {verbosity : Nat}
    {request : ExportRequest}
    (accepted : Invocation.ofArguments arguments = .ok ⟨config, verbosity, .exportSchema request⟩) :
    ∃ line : ExportLine, line.arguments = arguments := by
  obtain ⟨front, name, arguments', rest, before, behind, command, split, folds, read, same⟩ :=
    ofItems_eq_ok_iff.mp accepted
  obtain rfl := eq_nil_of_items_eq split
  obtain ⟨-, -, rfl⟩ := Invocation.mk.inj same
  obtain rfl := readNamed_exportSchema read
  have clean : IsClean (items none arguments) := by
    rw [split, isClean_append]
    exact ⟨isClean_of_folds (by decide) folds, by simp [IsClean]⟩
  obtain ⟨parts, ending, fits, ends, rfl⟩ := exists_segments clean
  rw [items_segments fits ends] at split
  obtain ⟨rfl, rfl⟩ := ending_eq_command split
  -- No operand stands before the command, for it would not be taken there.
  have options : ∀ part ∈ parts, part ∈ Set.range Part.options := by
    intro part mem
    cases part with
    | options spelling => exact ⟨spelling, rfl⟩
    | operand text =>
      have taken := ((foldlM_take_eq_ok_iff (by decide)).mp folds).1.taken (.operand text)
        (List.mem_flatMap.mpr ⟨_, mem, List.mem_singleton_self _⟩)
      cases taken.1
  obtain ⟨spellings, rfl⟩ : parts ∈ Set.range (List.map Part.options) := by
    rw [Set.range_list_map]
    exact options
  have clean' : IsClean (items (some .exportSchema) arguments') :=
    isClean_of_folds (by decide) (readCommand_exportSchema_eq_ok_iff.mp read).1
  obtain ⟨parts', ending', fits', ends', rfl⟩ := exists_segments clean'
  obtain ⟨operands, rfl⟩ : ∃ operands, ending' = endingWith operands := by
    cases ending' with
    | done => exact ⟨none, rfl⟩
    | operands texts => exact ⟨some texts, rfl⟩
    | command name arguments => exact absurd ends' Bool.false_ne_true
  refine ⟨⟨spellings, parts', operands, fun spelling mem => ?_, fits'⟩, ?_⟩
  · exact fits _ (List.mem_map_of_mem mem)
  · rw [List.flatMap_map]
    rfl

end ExportLine

end SchemaPress.CommandLine
