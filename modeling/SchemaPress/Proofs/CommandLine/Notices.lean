import SchemaPress.CommandLine.Run
import SchemaPress.Files.Tree

/-!
# What is told and what is logged

What a run writes to the standard error is told by its command or logged. How far the log goes
depends on the arguments, and nothing else does: what is told is the same at every level
(`unlogged_upTo`), and so are the exit code and the standard output. An entry of the log has the
time in front of it, so the text of the standard error leaves the log out (`stderr_unlogged`).
-/

set_option autoImplicit false

namespace SchemaPress.CommandLine

variable {most : LogLevel} {notices front : List Notice} {outcome : Outcome}

/-- Says whether a piece is told, and no entry of the log. -/
def Notice.isTold : Notice → Bool
  | told _ => true
  | logged _ => false

/-- What is told is written at every level of the log. -/
theorem Notice.isTold_and_isShown (notice : Notice) :
    (notice.isTold && notice.isShown most) = notice.isTold := by
  cases notice <;> simp [isTold, isShown]

/-- As soon as the arguments ask for the log once all of it is written, and none of it before. -/
theorem Notice.filter_logged (verbosity : Nat) (log : List LogEntry) :
    (log.map logged).filter (·.isShown (.ofVerbosity verbosity)) =
      if verbosity = 0 then [] else log.map logged := by
  have shown (entry : LogEntry) :
      (logged entry).isShown (.ofVerbosity verbosity) = decide (verbosity ≠ 0) := by
    rw [Bool.eq_iff_iff, decide_eq_true_eq]
    exact LogEntry.isShown_ofVerbosity verbosity entry
  by_cases quiet : verbosity = 0
  · rw [if_pos quiet, List.filter_eq_nil_iff, List.forall_mem_map]
    intro entry _
    rw [shown]
    simp [quiet]
  · rw [if_neg quiet, List.filter_eq_self, List.forall_mem_map]
    intro entry _
    rw [shown]
    simp [quiet]

namespace Outcome

/-- An outcome without its log. -/
def unlogged (outcome : Outcome) : Outcome :=
  { outcome with notices := outcome.notices.filter Notice.isTold }

/-- What has been written before does not change the exit code. -/
@[simp]
theorem exit_behind : (outcome.behind notices).exit = outcome.exit :=
  rfl

/-- Nor does it change the output. -/
@[simp]
theorem stdout_behind : (outcome.behind notices).stdout = outcome.stdout :=
  rfl

/-- To leave out entries of the log does not change the exit code. -/
@[simp]
theorem exit_upTo : (outcome.upTo most).exit = outcome.exit :=
  rfl

/-- Nor does it change the output. -/
@[simp]
theorem stdout_upTo : (outcome.upTo most).stdout = outcome.stdout :=
  rfl

/-- What has been written before stands before the rest. -/
@[simp]
theorem notices_behind : (outcome.behind notices).notices = notices ++ outcome.notices :=
  rfl

/-- Behind no pieces an outcome is as it was. -/
@[simp]
theorem behind_nil : outcome.behind [] = outcome :=
  rfl

/-- What comes behind some pieces, and then behind others, comes behind all of them. -/
theorem behind_comp_behind :
    Outcome.behind front ∘ Outcome.behind notices = Outcome.behind (front ++ notices) := by
  funext outcome
  simp [behind]

/-- Of pieces that have been written before, the log goes up to the same level. -/
theorem upTo_behind : (outcome.behind notices).upTo most =
    (outcome.upTo most).behind (notices.filter (·.isShown most)) := by
  simp [behind, upTo]

/-- To whichever level the log goes, what is told is the same. -/
theorem unlogged_upTo : (outcome.upTo most).unlogged = outcome.unlogged := by
  simp [unlogged, upTo, List.filter_filter, Notice.isTold_and_isShown]

/-- Where the arguments do not ask for the log, nothing but what is told is written. -/
theorem upTo_quiet : outcome.upTo (.ofVerbosity 0) = outcome.unlogged := by
  have shown (notice : Notice) : notice.isShown (.ofVerbosity 0) = notice.isTold := by
    cases notice with
    | told text => rfl
    | logged entry => cases entry <;> rfl
  simp [unlogged, upTo, shown]

/-- Of pieces that have been written before, those that are told are still there. -/
theorem unlogged_behind : (outcome.behind notices).unlogged =
    outcome.unlogged.behind (notices.filter Notice.isTold) := by
  simp [behind, unlogged]

/-- What has been logged before does not matter to what is told. -/
theorem unlogged_behind_log (log : List LogEntry) :
    (outcome.behind (log.map .logged)).unlogged = outcome.unlogged := by
  have untold : (log.map Notice.logged).filter Notice.isTold = [] := by
    simp [Notice.isTold]
  rw [unlogged_behind, untold, behind_nil]

/-- Without its log an outcome has no log. -/
theorem unlogged_unlogged : outcome.unlogged.unlogged = outcome.unlogged := by
  simp [unlogged]

/-- The text of the standard error is that of an outcome without its log. -/
theorem stderr_unlogged : outcome.unlogged.stderr = outcome.stderr := by
  have told : (fun notice : Notice => if notice.isTold then notice.told? else none) =
      Notice.told? := by
    funext notice
    cases notice <;> rfl
  simp [stderr, unlogged, List.filterMap_filter, told]

end Outcome

/-- The outcome of a run is that of its command, with the log up to the level that is asked for. -/
theorem run_of_reads {arguments : List String} {config : String} {verbosity : Nat}
    {command : Command} {tree : FileTree}
    (reads : Invocation.ofArguments arguments = .ok ⟨config, verbosity, command⟩) :
    (run arguments : StateM FileTree _) tree =
      Prod.map (Outcome.upTo (.ofVerbosity verbosity)) id
        ((runCommand config command : StateM FileTree _) tree) := by
  rw [run, reads]
  rfl

end SchemaPress.CommandLine
