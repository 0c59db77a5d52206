import PreMerge.Files.FileTree
import PreMerge.Log
import PreMerge.Number.General

/-! Commands run as processes. A process passes only if it exits with code zero; any other way it ends,
or is kept from starting, fails the step with a reason that names the command. -/

namespace PreMerge

/-- A command and the directory it runs in. -/
structure Request where
  argv : List String
  place : Path
  deriving DecidableEq, Repr

/-- A process to start: a request, and the seconds it may take. -/
structure Launch where
  request : Request
  timeout : Option Binary64 := none
  deriving DecidableEq, Repr

/-- How a process ends. -/
inductive Ending
  | exited (code : Int)
  | timedOut (seconds : Binary64)
  /-- It did not start. -/
  | refused (fault : Fault)
  deriving DecidableEq, Repr

/-- What a run works on: files, a clock, and what else its commands depend on. -/
structure Site (σ : Type) where
  tree : FileTree
  now : Binary64
  hidden : σ

/-- What running a command comes to. -/
structure Answer (σ : Type) where
  result : Except Fault Unit
  site : Site σ
  log : List Record := []
  /-- Whether it came to a launch at all. -/
  launched : Bool := true

/-- A way to run commands. -/
abbrev Runner (σ : Type) :=
  Request → Site σ → Answer σ

/-- A way to start processes. -/
abbrev Launcher (σ : Type) :=
  Launch → Site σ → Ending × Site σ

namespace Launch

/-- The fault of a command that is named in its reason. -/
def failure (argv : List String) (reason : String → String) : Fault :=
  match argv with
  | [] => .ofText .index "list index out of range"
  | name :: _ => .ofText .stepFailed (reason name)

/-- What the ending of a process means for the step. -/
def judge (argv : List String) : Ending → Except Fault Unit
  | .exited code =>
    if code = 0 then .ok ()
    else .error (failure argv fun name => name ++ " exited with code " ++ toString code)
  | .timedOut seconds =>
    .error (failure argv fun name => name ++ " timed out after " ++ seconds.general ++ "s")
  | .refused fault =>
    if fault.isMissing then .error (failure argv fun name => name ++ " not found")
    else if fault.kind.family = .system then
      .error (failure argv fun name => "could not start " ++ name ++ ": " ++ fault.message)
    else .error fault

/-- The record of a command that is about to start. -/
def record (request : Request) : Record :=
  ⟨.debug, .commands, "Running " ++ " ".intercalate request.argv ++ " in " ++ request.place.text⟩

end Launch

/-- Commands run as processes, each with the same timeout. Before each there is a record, without which
nothing is launched; `verbose` tells whether such records are written. -/
def Launcher.runner {σ : Type} (launcher : Launcher σ) (timeout : Option Binary64)
    (verbose : Bool := true) : Runner σ :=
  fun request site =>
    match stampFault? verbose .debug site.now with
    | some fault => { result := .error fault, site, launched := false }
    | none =>
      let ended := launcher ⟨request, timeout⟩ site
      { result := Launch.judge request.argv ended.1, site := ended.2, log := [Launch.record request] }

theorem Launch.judge_eq_ok_iff {argv : List String} {ending : Ending} :
    judge argv ending = .ok () ↔ ending = .exited 0 := by
  cases ending with
  | exited code =>
    by_cases h : code = 0 <;> simp [judge, h]
  | timedOut => simp [judge]
  | refused fault =>
    simp only [judge]
    split
    · simp
    · split <;> simp

end PreMerge
