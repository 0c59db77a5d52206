import PreMerge.Console
import PreMerge.Number.General
import PreMerge.Run.Report

/-! What is printed about a run: a header before each step, a line or two after it, and a summary. -/

namespace PreMerge

/-- What is printed, and the fault that ends the printing early. -/
structure Announcement where
  prints : List Print
  fault : Option Fault := none
  deriving DecidableEq, Repr

namespace Announcement

/-- A title between rules. -/
def titled (title : String) : List Print :=
  [.blank, .rule, .line title .bold, .rule]

/-- The header of a step, one of `total`. -/
def header (total : Int) (spec : Spec) : List Print :=
  titled ("[" ++ toString spec.ordinal ++ "/" ++ toString total ++ "] " ++ spec.label)

/-- The lines about the outcome of a step that took so many seconds. -/
def outcomeLines (label : String) (outcome : Outcome) (seconds : Int) : List Print :=
  let took := " (" ++ toString seconds ++ "s)"
  match outcome.result with
  | .passed => [.line ("✓ " ++ label ++ took) .green]
  | .failed =>
    .line ("✗ " ++ label ++ " FAILED" ++ took) .red ::
      if outcome.reason = "" then [] else [.line ("  " ++ outcome.reason) .dim]
  | .skipped => [.line ("⊘ " ++ label ++ " skipped (" ++ outcome.reason ++ ")") .yellow]

/-- What is printed about the outcome of a step. -/
def ofStep (step : Step) : Announcement :=
  match step.outcome with
  | none => ⟨[], none⟩
  | some outcome =>
    match outcome.elapsed.truncate with
    | .error fault => ⟨[], some fault⟩
    | .ok seconds => ⟨outcomeLines step.spec.label outcome seconds, none⟩

/-- The counts in a summary. -/
def counts (report : Report) : List Print :=
  [.line ("  ✓ Passed:  " ++ toString report.passed) .green,
   .line ("  ✗ Failed:  " ++ toString report.failed) (if report.failed = 0 then .dim else .red),
   .line ("  ⊘ Skipped: " ++ toString report.skipped) (if report.skipped = 0 then .dim else .yellow)]

/-- The verdict at the end of a summary. -/
def verdict (report : Report) : Print :=
  if report.success then .line "ALL CHECKS PASSED" .boldGreen
  else .line ("VERIFICATION FAILED — " ++ toString report.failed ++ " check(s) did not pass.") .boldRed

/-- What is printed at the end of a run. -/
def summary (report : Report) : Announcement :=
  let start := titled "VERIFICATION SUMMARY" ++ counts report
  match report.elapsed.truncate with
  | .error fault => ⟨start, some fault⟩
  | .ok seconds =>
    ⟨start ++
      [.line ("  Total:   " ++ toString report.total ++ " checks in " ++ toString seconds ++ "s") .plain,
       .blank, verdict report], none⟩

end Announcement

end PreMerge
