import PreMerge.Command.Launch
import PreMerge.Run.Announcement
import PreMerge.Scan.Findings
import PreMerge.Selection.Candidates

/-! Verification: the steps of a run, one after the other. A step that fails does not stop the run. Only
an interrupt does, or a clock that shows no number of seconds. -/

namespace PreMerge

/-- What surrounds a scan: the encodings of file names and of the output, and what the clock shows once the files are
selected, once they are scanned, and at the end. -/
structure Surroundings (σ : Type) where
  naming : Encoding := {}
  output : Encoding := {}
  selected : Site σ → Binary64 := fun site => site.now
  scanned : Site σ → Binary64 := fun site => site.now
  ended : Site σ → Binary64 := fun site => site.now

namespace Surroundings

variable {σ : Type}

/-- The site that a scan leaves behind. It changes no files. -/
def after (around : Surroundings σ) (site : Site σ) : Site σ :=
  { site with now := around.ended site }

/-- The conditions of a scan, where `stamp` tells why no record can be written at a time. -/
def conditions (around : Surroundings σ) (site : Site σ) (stamp : Binary64 → Option Fault) : Scan.Conditions where
  stamp := stamp (around.selected site)
  naming := around.naming
  output := around.output

/-- The seconds that a scan takes. -/
def took (around : Surroundings σ) (site : Site σ) : Binary64 :=
  around.scanned site - around.selected site

end Surroundings

/-- What is to be verified, and how. -/
structure Verification (σ : Type) where
  root : Path
  runner : Runner σ
  specs : List Spec := Spec.standard
  /-- The number of steps that the headers tell. -/
  total : Int := specs.length
  skipBuild : Bool := false
  /-- Whether the records that tell details are written. -/
  verbose : Bool := true
  around : Surroundings σ := {}

/-- How the work of a step ends. -/
inductive Performance.Ending
  | done
  | nothingToScan
  | failed (fault : Fault)
  deriving DecidableEq, Repr

/-- The work of one step. -/
structure Performance (σ : Type) where
  ending : Performance.Ending
  site : Site σ
  prints : List Print := []
  log : List Record := []
  requests : List Request := []

/-- A step of a run with all that it does. The step itself is missing if the run was interrupted. -/
structure Stage (σ : Type) where
  step : Option Step
  site : Site σ
  prints : List Print
  log : List Record
  requests : List Request
  fault : Option Fault

/-- A run: its report and all that it does, and the fault that ended it early. -/
structure Run (σ : Type) where
  report : Report
  site : Site σ
  prints : List Print
  log : List Record
  requests : List Request
  fault : Option Fault

namespace Performance

/-- The ending for a result. -/
def Ending.ofExcept : Except Fault Unit → Ending
  | .ok () => .done
  | .error fault => if fault.kind.family = .nothingToScan then .nothingToScan else .failed fault

/-- The record of a finished scan that took so many seconds. -/
def scanRecord (findings : Findings) (took : Binary64) : Record :=
  ⟨.debug, .orchestrator, "Scanned " ++ toString findings.scanned ++ " of " ++
    toString findings.candidates ++ " candidate files in " ++ took.hundredths ++ "s"⟩

/-- How a scan ends that found these. -/
def scanEnding (findings : Findings) : Ending :=
  if findings.passed then .done
  else .failed (.ofText .stepFailed
    (toString findings.violations.length ++ " anti-pattern violation(s) found"))

/-- The files that are selected below a root, whose text has to be a name that can be asked for. -/
def selection (root : Path) (naming : Encoding) (tree : FileTree) (stamp : Option Fault) :
    Except Fault (List String × List Record) :=
  match naming.fault? root.text with
  | some fault => .error fault
  | none => ({ root } : Selector).collect tree stamp

/-- The scan of the files that are selected below a root. If no record can be written at a time, `stamp` tells why. -/
def scan {σ : Type} (root : Path) (around : Surroundings σ) (site : Site σ) (stamp : Binary64 → Option Fault) :
    Performance σ :=
  let after := around.after site
  match selection root around.naming site.tree (stamp site.now) with
  | .error fault => { ending := .failed fault, site := after }
  | .ok ([], log) => { ending := .nothingToScan, site := after, log }
  | .ok (files, log) =>
    let (findings, fault) := PreMerge.scan Rule.standard site.tree (some root) files (around.conditions site stamp)
    let prints := findings.shown.map .raw
    match fault.or (stamp (around.scanned site)) with
    | some fault => { ending := .failed fault, site := after, prints, log := log ++ findings.log }
    | none =>
      { ending := scanEnding findings, site := after, prints
        log := log ++ findings.log ++ [scanRecord findings (around.took site)] }

/-- The work that a task asks for. -/
def ofTask {σ : Type} (root : Path) (runner : Runner σ) (around : Surroundings σ) (task : Task) (site : Site σ)
    (stamp : Binary64 → Option Fault) : Performance σ :=
  match task with
  | .scan => scan root around site stamp
  | .command argv =>
    let answer := runner ⟨argv, root⟩ site
    { ending := .ofExcept answer.result, site := answer.site, log := answer.log,
      requests := if answer.launched then [⟨argv, root⟩] else [] }

/-- The result of an ending and the reason for it, or the fault that interrupts the run. -/
def verdict : Ending → Except Fault (Result × String)
  | .done => .ok (.passed, "")
  | .nothingToScan => .ok (.skipped, "no TS/TSX files found to scan")
  | .failed fault =>
    match fault.kind.family with
    | .interrupting => .error fault
    | .stepFailed => .ok (.failed, fault.message)
    | .system => .ok (.failed, "I/O error: " ++ fault.message)
    | _ => .ok (.failed, fault.report)

example : (verdict (.failed (Refusal.notFound.fault "apps"))).toOption =
    some (.failed, "I/O error: [Errno 2] No such file or directory: 'apps'") := by
  decide +kernel

/-- Whether an ending is one that no step is meant to have. -/
def isUnexpected : Ending → Bool
  | .failed fault => fault.kind.family == .other
  | _ => false

/-- The record of an ending that is unexpected. -/
def surprise (name : String) (ending : Ending) : List Record :=
  if isUnexpected ending then [⟨.error, .orchestrator, "Step " ++ name ++ " raised unexpectedly"⟩] else []

/-- Why the record of an unexpected ending cannot be written. -/
def surpriseFault? {σ : Type} (work : Performance σ) : Option Fault :=
  if isUnexpected work.ending then stampFault? false .error work.site.now else none

end Performance

namespace Stage

/-- The record of a step that is done. -/
def record (spec : Spec) (result : Result) : Record :=
  ⟨.debug, .orchestrator, "Step " ++ spec.name ++ ": " ++ result.label⟩

/-- A stage that announces and records an outcome after some work. -/
def conclude {σ : Type} (plan : Verification σ) (spec : Spec) (work : Performance σ) (outcome : Outcome) :
    Stage σ :=
  let step : Step := ⟨spec, some outcome⟩
  let announced := Announcement.ofStep step
  let fault := announced.fault.or (stampFault? plan.verbose .debug work.site.now)
  { step := some step
    site := work.site
    prints := Announcement.header plan.total spec ++ work.prints ++ announced.prints
    log := work.log ++ if fault.isNone then [record spec outcome.result] else []
    requests := work.requests
    fault }

/-- A stage that is interrupted. -/
def interrupt {σ : Type} (total : Int) (spec : Spec) (work : Performance σ) (fault : Fault) : Stage σ :=
  { step := none
    site := work.site
    prints := Announcement.header total spec ++ work.prints
    log := work.log
    requests := work.requests
    fault := some fault }

end Stage

namespace Verification

variable {σ : Type}

/-- Whether a step is left out. -/
def omits (plan : Verification σ) (spec : Spec) : Bool :=
  spec.skippable && plan.skipBuild

/-- One step of a run. -/
def stage (plan : Verification σ) (spec : Spec) (site : Site σ) : Stage σ :=
  if plan.omits spec then
    .conclude plan spec { ending := .done, site } ⟨.skipped, .zero, "via --skip-build"⟩
  else
    let work := Performance.ofTask plan.root plan.runner plan.around spec.task site
      (stampFault? plan.verbose .debug)
    match Performance.verdict work.ending, work.surpriseFault? with
    | .error fault, _ | .ok _, some fault => .interrupt plan.total spec work fault
    | .ok (result, reason), none =>
      let work := { work with log := work.log ++ Performance.surprise spec.name work.ending }
      .conclude plan spec work ⟨result, work.site.now - site.now, reason⟩

/-- The stages of a run, up to one that ends it. -/
def stages (plan : Verification σ) : List Spec → Site σ → List (Stage σ)
  | [], _ => []
  | spec :: rest, site =>
    let first := plan.stage spec site
    match first.fault with
    | some _ => [first]
    | none => first :: stages plan rest first.site

/-- The site after some stages. -/
def siteAfter (site : Site σ) (done : List (Stage σ)) : Site σ :=
  (done.getLast?.map (·.site)).getD site

/-- A run on a site. -/
def run (plan : Verification σ) (site : Site σ) : Run σ :=
  let done := plan.stages plan.specs site
  let report : Report := { steps := done.filterMap (·.step), started := site.now }
  let last := siteAfter site done
  let prints := done.flatMap (·.prints)
  let log := done.flatMap (·.log)
  let requests := done.flatMap (·.requests)
  match done.findSome? (·.fault) with
  | some fault => ⟨report, last, prints, log, requests, some fault⟩
  | none =>
    let report := report.finish last.now
    let summary := Announcement.summary report
    ⟨report, last, prints ++ summary.prints, log, requests, summary.fault⟩

end Verification

end PreMerge
