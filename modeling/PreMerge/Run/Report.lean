import PreMerge.Run.Step

/-! The report of a run, which grows with its steps. -/

namespace PreMerge

/-- The steps so far, when the run started, and how long it took once it is finished. -/
structure Report where
  steps : List Step := []
  started : Binary64
  elapsed : Binary64 := .zero
  deriving DecidableEq, Repr

namespace Report

/-- How many steps have a result. -/
def count (report : Report) (result : Result) : Nat :=
  report.steps.countP fun step => step.result = some result

/-- How many steps passed. -/
def passed (report : Report) : Nat :=
  report.count .passed

/-- How many steps failed. -/
def failed (report : Report) : Nat :=
  report.count .failed

/-- How many steps were skipped. -/
def skipped (report : Report) : Nat :=
  report.count .skipped

/-- How many steps there are. -/
def total (report : Report) : Nat :=
  report.steps.length

/-- Whether no step failed. -/
def success (report : Report) : Bool :=
  report.failed == 0

/-- The exit code that tells whether the run succeeded. -/
def exitCode (report : Report) : Int :=
  if report.success then 0 else 1

/-- The report with one step more. -/
def add (report : Report) (step : Step) : Report :=
  { report with steps := report.steps ++ [step] }

/-- The report with an outcome recorded for the step at an index. -/
def record (report : Report) (index : Nat) (outcome : Outcome) : Except Fault Report :=
  match report.steps[index]? with
  | none => .ok report
  | some step => (step.record outcome).map fun later => { report with steps := report.steps.set index later }

/-- The report at the end of a run. -/
def finish (report : Report) (now : Binary64) : Report :=
  { report with elapsed := now - report.started }

theorem passed_add_failed_add_skipped (report : Report) :
    report.passed + report.failed + report.skipped = report.steps.countP Step.done := by
  simp only [passed, failed, skipped, count]
  induction report.steps with
  | nil => rfl
  | cons step rest ih =>
    obtain ⟨spec, outcome⟩ := step
    cases outcome with
    | none => simpa [Step.result, Step.done] using ih
    | some outcome =>
      obtain ⟨result, elapsed, reason⟩ := outcome
      cases result <;> simp [List.countP_cons, Step.result, Step.done] at ih ⊢ <;> omega

end Report

end PreMerge
