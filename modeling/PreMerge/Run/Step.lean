import PreMerge.Fault
import PreMerge.Number.Binary64
import PreMerge.Text.Quoted

/-! Steps: what a run consists of, in order. A step is done once its outcome is recorded, and an outcome
is recorded only once. -/

namespace PreMerge

/-- What a step does: it runs a command, or scans the source files. -/
inductive Task
  | command (argv : List String)
  | scan
  deriving DecidableEq, Repr

namespace Task

/-- How a kind of task is called. -/
def label : Task → String
  | .command _ => "command"
  | .scan => "scan"

/-- The words of the command, if there is one. -/
def argv : Task → List String
  | .command argv => argv
  | .scan => []

/-- The task of a kind that is given by its label. -/
def ofLabel (kind : String) (argv : List String) : Except Fault Task :=
  if kind = "command" then .ok (.command argv)
  else if kind = "scan" then .ok .scan
  else .error (.ofText .value (Text.quoted kind ++ " is not a valid StepKind"))

end Task

/-- A step that is planned. -/
structure Spec where
  ordinal : Int
  name : String
  label : String
  task : Task
  /-- Whether the operator may leave the step out. -/
  skippable : Bool := false
  deriving DecidableEq, Repr

/-- The steps of a verification. -/
def Spec.standard : List Spec :=
  [⟨1, "typecheck", "TypeScript Type Check", .command ["npx", "turbo", "run", "typecheck"], false⟩,
   ⟨2, "lint", "ESLint", .command ["npx", "turbo", "run", "lint"], false⟩,
   ⟨3, "test", "Unit Tests (Vitest)", .command ["npx", "vitest", "run"], false⟩,
   ⟨4, "anti-patterns", "Anti-pattern Scan", .scan, false⟩,
   ⟨5, "lint:naming", "Naming Convention Check", .command ["node", "scripts/lint-naming.js"], false⟩,
   ⟨6, "wrangler-sync", "Wrangler Binding Sync", .command ["node", "scripts/check-wrangler-sync.js"],
     false⟩,
   ⟨7, "build", "Production Build", .command ["npx", "turbo", "run", "build"], true⟩]

/-- How a step ended. -/
inductive Result
  | passed
  | failed
  | skipped
  deriving DecidableEq, Repr

namespace Result

/-- How a result is called. -/
def label : Result → String
  | .passed => "passed"
  | .failed => "failed"
  | .skipped => "skipped"

/-- The result of a label. -/
def ofLabel (label : String) : Except Fault Result :=
  if label = "passed" then .ok .passed
  else if label = "failed" then .ok .failed
  else if label = "skipped" then .ok .skipped
  else .error (.ofText .value (Text.quoted label ++ " is not a valid StepResult"))

end Result

/-- A result with the seconds it took to reach it, and the reason for it. -/
structure Outcome where
  result : Result
  elapsed : Binary64 := .zero
  reason : String := ""
  deriving DecidableEq, Repr

/-- A step of one run. -/
structure Step where
  spec : Spec
  outcome : Option Outcome := none
  deriving DecidableEq, Repr

namespace Step

/-- The result, once there is one. -/
def result (step : Step) : Option Result :=
  step.outcome.map (·.result)

/-- Whether the outcome is recorded. -/
def done (step : Step) : Bool :=
  step.outcome.isSome

/-- The seconds the step took. -/
def elapsed (step : Step) : Binary64 :=
  step.outcome.elim .zero (·.elapsed)

/-- The reason for the result. -/
def reason (step : Step) : String :=
  step.outcome.elim "" (·.reason)

/-- The step with its outcome recorded; an earlier outcome stays. -/
def record (step : Step) (outcome : Outcome) : Except Fault Step :=
  match step.outcome with
  | none => .ok { step with outcome := some outcome }
  | some earlier =>
    .error (.ofText .runtime
      ("Step '" ++ step.spec.name ++ "' already recorded as " ++ earlier.result.label))

theorem record_eq_ok_iff {step later : Step} {outcome : Outcome} :
    step.record outcome = .ok later ↔
      step.done = false ∧ later = { step with outcome := some outcome } := by
  cases h : step.outcome <;> simp [record, done, h, eq_comm]

end Step

end PreMerge
