import PreMerge.CommandLine.Arguments
import PreMerge.Run.Verification
import PreMerge.Settings

/-! The two commands: one verifies the repository, the other scans the files it is given. Both print on the console they
are run on. -/

namespace PreMerge

/-- How a command is entered: under which name, and whether it hands on a request to exit as it is. -/
structure Entry where
  program : String
  handsOn : Bool := false
  deriving DecidableEq, Repr

/-- What running a command comes to. -/
structure Session (σ : Type) where
  exitCode : Int
  site : Site σ
  stdout : String := ""
  stderr : String := ""
  /-- The fault that no part of the program has dealt with. -/
  fault : Option Fault := none
  /-- The details of a request to exit that is handed on, in place of the exit code. -/
  request : Option (List Detail) := none
  log : List Record := []
  launches : List Launch := []

namespace Session

variable {σ : Type}

/-- The command that verifies the repository. -/
def verifyCommand (program : String) : Command where
  program := program
  usage := "[OPTIONS]"
  about :=
    ["Run type check, lint, tests, anti-pattern scan, naming and binding checks, and",
      "the production build, then report a single verdict."]
  switches := [⟨"--skip-build", "Record the production build as skipped instead of running it."⟩]

/-- The command that scans files. -/
def checkCommand : Command where
  program := "check-anti-patterns"
  usage := "[OPTIONS] FILES..."
  about := ["Block commits whose FILES contain forbidden constructs."]
  operands := some "FILES..."

/-- The directory of a site, by its full path. -/
def directory (site : Site σ) : Path :=
  ⟨.root, site.tree.here⟩

/-- A session that reads its arguments and its settings before it does its work. -/
def start (command : Command) (arguments : List String) (environment : Environment) (site : Site σ)
    (work : Given → Settings → Session σ) : Session σ :=
  match command.read arguments with
  | .error misuse => { exitCode := 2, site, stderr := misuse.complaint command }
  | .ok .help => { exitCode := 0, site, stdout := command.help }
  | .ok (.run given) =>
    match Settings.load (directory site) environment with
    | .error fault => { exitCode := 1, site, fault := some fault }
    | .ok settings => work given settings

/-- How a session ends that was told to exit. -/
def exit (session : Session σ) (details : List Detail) : Session σ :=
  match details with
  | [] => { session with exitCode := 0 }
  | [.whole code] => { session with exitCode := code }
  | _ =>
    { session with
      exitCode := 1
      stdout := session.stdout ++ (Fault.mk .exit details).message ++ "\n" }

/-- How a session ends by a fault. -/
def stop (session : Session σ) (entry : Entry) (fault : Fault) : Session σ :=
  match fault.kind with
  | .exit =>
    if entry.handsOn then { session with request := some fault.details } else session.exit fault.details
  | .interrupted => { session with exitCode := 1, stderr := session.stderr ++ "\nAborted!\n" }
  | _ => { session with exitCode := 1, fault := some fault }

/-- The run that the settings and switches ask for. -/
def plan (launcher : Launcher σ) (given : Given) (settings : Settings) (around : Surroundings σ := {}) :
    Verification σ where
  root := settings.root
  runner := launcher.runner settings.timeout settings.verbose
  skipBuild := given.switches.contains "--skip-build"
  verbose := settings.verbose
  around := around

/-- The work of the first command. -/
def verification (entry : Entry) (launcher : Launcher σ) (site : Site σ) (console : Console)
    (around : Surroundings σ) (given : Given) (settings : Settings) : Session σ :=
  let run := (plan launcher given settings around).run site
  let session : Session σ :=
    { exitCode := run.report.exitCode
      site := run.site
      stdout := console.text run.prints
      log := shownRecords settings.verbose run.log
      launches := run.requests.map fun request => ⟨request, settings.timeout⟩ }
  match run.fault with
  | none => session
  | some fault => session.stop entry fault

/-- A session of the command that verifies the repository. -/
def verify (entry : Entry) (launcher : Launcher σ) (arguments : List String) (environment : Environment)
    (site : Site σ) (console : Console := {}) (around : Surroundings σ := {}) : Session σ :=
  start (verifyCommand entry.program) arguments environment site
    (verification entry launcher site console around)

/-- The record of a finished scan that took so many seconds. -/
def scanRecord (findings : Findings) (took : Binary64) : Record :=
  ⟨.debug, .scanCommand, "Scanned " ++ toString findings.scanned ++ " files (" ++
    toString findings.skipped ++ " skipped, " ++ toString findings.unreadable ++ " unreadable) in " ++
    took.hundredths ++ "s"⟩

/-- What is printed at the end of a scan. -/
def blocked (findings : Findings) : List Print :=
  if findings.passed then []
  else [.blank, .wrapped
    ["COMMIT", "BLOCKED:", toString findings.violations.length, "anti-pattern", "violation(s)", "found."]]

/-- The work of the second command. -/
def inspection (site : Site σ) (console : Console) (around : Surroundings σ) (given : Given)
    (settings : Settings) : Session σ :=
  let after := around.after site
  let stamp := stampFault? settings.verbose .debug
  let (findings, fault) := scan Rule.standard site.tree none given.operands (around.conditions site stamp)
  match fault.or (stamp (around.scanned site)) with
  | some fault =>
    { exitCode := 1, site := after, stdout := findings.echo, fault := some fault
      log := shownRecords settings.verbose findings.log }
  | none =>
    { exitCode := if findings.passed then 0 else 1
      site := after
      stdout := findings.echo ++ console.text (blocked findings)
      log := shownRecords settings.verbose (findings.log ++ [scanRecord findings (around.took site)]) }

/-- A session of the command that scans files. -/
def check (arguments : List String) (environment : Environment) (site : Site σ) (console : Console := {})
    (around : Surroundings σ := {}) : Session σ :=
  start checkCommand arguments environment site (inspection site console around)

end Session

end PreMerge
