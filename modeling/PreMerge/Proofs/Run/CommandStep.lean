import PreMerge.Proofs.Run.Recorded

/-! What becomes of a step that runs a command as a process. There is a single way to pass, and every other ending of
the process has a reason that begins with the command or tells that the command could not be started (`reasonOf_cases`).
Each of these endings is a failure that the runner reports itself (`judge_eq_ite`), so none of them is ever taken for
a refused file or for something unexpected (`command_stage_outcome`). -/

namespace PreMerge

namespace Launch

variable {name : String} {arguments : List String} {ending : Ending}

/-- What is said of a command whose process ended like this. -/
def reasonOf (name : String) : Ending → String
  | .exited code => name ++ " exited with code " ++ toString code
  | .timedOut seconds => name ++ " timed out after " ++ seconds.general ++ "s"
  | .refused fault =>
    if fault.isMissing then name ++ " not found" else "could not start " ++ name ++ ": " ++ fault.message

/-- A reason begins with the command, or says first that it could not be started if it was refused for another cause
than that something is missing. -/
theorem reasonOf_cases (name : String) (ending : Ending) :
    ((∃ fault, ending = .refused fault ∧ fault.isMissing = false) ∧
      ∃ more, reasonOf name ending = "could not start " ++ name ++ more ∧ more ≠ "") ∨
    ((∀ fault, ending = .refused fault → fault.isMissing = true) ∧
      ∃ more, reasonOf name ending = name ++ more ∧ more ≠ "") := by
  cases ending with
  | exited code =>
      refine .inr ⟨nofun, " exited with code " ++ toString code, ?_, by simp⟩
      rw [reasonOf, String.append_assoc]
  | timedOut seconds =>
      refine .inr ⟨nofun, " timed out after " ++ seconds.general ++ "s", ?_, by simp⟩
      rw [reasonOf, String.append_assoc, String.append_assoc, String.append_assoc]
  | refused fault =>
      cases hmissing : fault.isMissing with
      | true =>
          refine .inr ⟨?_, " not found", ?_, by simp⟩
          · rintro other ⟨⟩
            exact hmissing
          · rw [reasonOf, if_pos hmissing]
      | false =>
          refine .inl ⟨⟨fault, rfl, hmissing⟩, ": " ++ fault.message, ?_, by simp⟩
          rw [reasonOf, hmissing, if_neg Bool.false_ne_true, String.append_assoc]

example : reasonOf "lint" (.timedOut (.ofRatio false 5 2)) = "lint timed out after 2.5s" := by decide +kernel

theorem reasonOf_ne_empty (name : String) (ending : Ending) : reasonOf name ending ≠ "" := by
  rcases reasonOf_cases name ending with ⟨-, more, hreason, hmore⟩ | ⟨-, more, hreason, hmore⟩
  · simp [hreason]
  · simp [hreason, hmore]

/-- A command fails with the reason for the ending of its process, and passes only if that has exited with zero. -/
theorem judge_eq_ite (hrefused : ∀ fault, ending = .refused fault → fault.kind = .system) :
    judge (name :: arguments) ending =
      if ending = .exited 0 then .ok () else .error (.ofText .stepFailed (reasonOf name ending)) := by
  cases ending with
  | exited code => simp [judge, failure, reasonOf]
  | timedOut seconds => rfl
  | refused fault =>
      have hfamily : fault.kind.family = .system := by rw [hrefused fault rfl]; rfl
      rw [judge, if_pos hfamily, reasonOf]
      cases fault.isMissing <;> rfl

end Launch

theorem Launcher.runner_eq {σ : Type} (launcher : Launcher σ) (timeout : Option Binary64) {verbose : Bool}
    (request : Request) {site : Site σ} (hstamp : stampFault? verbose .debug site.now = none) :
    launcher.runner timeout verbose request site =
      { result := Launch.judge request.argv (launcher ⟨request, timeout⟩ site).1
        site := (launcher ⟨request, timeout⟩ site).2
        log := [Launch.record request] } := by
  rw [Launcher.runner, hstamp]

namespace Verification

variable {σ : Type} {plan : Verification σ} {spec : Spec} {site : Site σ}

/-- What a step records that runs a command, if its runner is answered as expected: the verdict on the answer, and
nothing in the log but what the runner writes there and the end of the step. -/
theorem stage_of_command {argv : List String} (htask : spec.task = .command argv) (hrun : plan.omits spec = false)
    {answer : Answer σ} (hanswer : plan.runner ⟨argv, plan.root⟩ site = answer) {result : Result} {reason : String}
    (hexpected : Performance.isUnexpected (.ofExcept answer.result) = false)
    (hverdict : Performance.verdict (.ofExcept answer.result) = .ok (result, reason)) :
    (∃ elapsed, (plan.stage spec site).step = some ⟨spec, some ⟨result, elapsed, reason⟩⟩) ∧
      (plan.stage spec site).requests = (if answer.launched then [⟨argv, plan.root⟩] else []) ∧
      ∀ record ∈ (plan.stage spec site).log, record ∈ answer.log ∨ record = Stage.record spec result := by
  have hwork : plan.work spec site =
      { ending := .ofExcept answer.result, site := answer.site, log := answer.log,
        requests := if answer.launched then [⟨argv, plan.root⟩] else [] } := by
    rw [work, htask, Performance.ofTask, hanswer]
  have hsurprise : (plan.work spec site).surpriseFault? = none := by
    rw [Performance.surpriseFault?, hwork, hexpected, if_neg Bool.false_ne_true]
  rw [plan.stage_of_verdict hrun hsurprise (by rw [hwork]; exact hverdict), hwork]
  refine ⟨⟨_, rfl⟩, rfl, ?_⟩
  intro record hrecord
  simp only [Stage.conclude, Performance.surprise, hexpected, if_neg Bool.false_ne_true, List.append_nil,
    List.mem_append] at hrecord
  refine hrecord.imp_right fun hlast => ?_
  split at hlast
  · exact List.mem_singleton.mp hlast
  · cases hlast

/-- What becomes of a step that runs a command as a process, as long as records can be written. It passes if and only
if the process has started and exited with zero. Whatever else becomes of the process, the step fails, and the reason
begins with the command, or tells that the command could not be started. This failure is the one that the runner
reports, and it leaves no record of an error. -/
theorem command_stage_outcome {launcher : Launcher σ} {timeout : Option Binary64}
    (hrunner : plan.runner = launcher.runner timeout plan.verbose) {name : String} {arguments : List String}
    (htask : spec.task = .command (name :: arguments)) (hrun : plan.omits spec = false)
    (hstamp : stampFault? plan.verbose .debug site.now = none)
    (hrefused : ∀ fault, (launcher ⟨⟨name :: arguments, plan.root⟩, timeout⟩ site).1 = .refused fault →
      fault.kind = .system) :
    let request : Request := ⟨name :: arguments, plan.root⟩
    let ending := (launcher ⟨request, timeout⟩ site).1
    let stage := plan.stage spec site
    ∃ outcome, stage.step = some ⟨spec, some outcome⟩ ∧ stage.requests = [request] ∧
      (outcome.result = .passed ↔ ending = .exited 0) ∧
      (ending ≠ .exited 0 →
        outcome.result = .failed ∧ outcome.reason = Launch.reasonOf name ending ∧ outcome.reason ≠ "" ∧
        (((∃ fault, ending = .refused fault ∧ fault.isMissing = false) ∧
            ∃ more, outcome.reason = "could not start " ++ name ++ more) ∨
          ((∀ fault, ending = .refused fault → fault.isMissing = true) ∧ ∃ more, outcome.reason = name ++ more))) ∧
      (∀ fault, (plan.runner request site).result = .error fault →
        fault.kind = .stepFailed ∧ outcome.reason = fault.message) ∧
      ∀ record ∈ stage.log, record.level = .debug := by
  intro request ending stage
  have hanswer := launcher.runner_eq timeout request hstamp
  rw [← hrunner, Launch.judge_eq_ite hrefused] at hanswer
  have hlevel : ∀ result, ∀ record, record ∈ [Launch.record request] ∨ record = Stage.record spec result →
      record.level = .debug := by
    rintro result record (hlaunch | rfl)
    · rw [List.mem_singleton.mp hlaunch]
      rfl
    · rfl
  by_cases hzero : ending = .exited 0
  · rw [if_pos hzero] at hanswer
    obtain ⟨⟨elapsed, hstep⟩, hrequests, hlog⟩ := stage_of_command htask hrun hanswer rfl rfl
    refine ⟨_, hstep, hrequests, iff_of_true rfl hzero, fun hother => absurd hzero hother, ?_,
      fun record hrecord => hlevel .passed record (hlog record hrecord)⟩
    intro fault hfault
    rw [hanswer] at hfault
    cases hfault
  · rw [if_neg hzero] at hanswer
    obtain ⟨⟨elapsed, hstep⟩, hrequests, hlog⟩ := stage_of_command htask hrun hanswer rfl rfl
    refine ⟨_, hstep, hrequests, iff_of_false nofun hzero,
      fun _ => ⟨rfl, rfl, Launch.reasonOf_ne_empty name ending, ?_⟩,
      ?_, fun record hrecord => hlevel .failed record (hlog record hrecord)⟩
    · rcases Launch.reasonOf_cases name ending with ⟨hstart, more, hreason, -⟩ | ⟨hstart, more, hreason, -⟩
      · exact .inl ⟨hstart, more, hreason⟩
      · exact .inr ⟨hstart, more, hreason⟩
    · intro fault hfault
      rw [hanswer] at hfault
      cases hfault
      exact ⟨rfl, rfl⟩

/-- The system gives up waiting while it starts the process, which is no timeout of the process. -/
theorem command_stage_outcome_of_slow_start :
    let why : Fault := ⟨.system, [.whole 110, .text "Connection timed out", .text "npx"]⟩
    let launcher : Launcher Unit := fun _ site => (.refused why, site)
    let plan : Verification Unit := { root := .ofString "repo", runner := launcher.runner (some .zero) }
    let spec : Spec := ⟨2, "lint", "ESLint", .command ["npx", "turbo", "run", "lint"], false⟩
    let site : Site Unit := ⟨⟨.empty, [], Path.isAmong []⟩, .zero, ()⟩
    ∃ outcome, (plan.stage spec site).step = some ⟨spec, some outcome⟩ ∧ outcome.result = .failed ∧
      outcome.reason = "could not start npx: [Errno 110] Connection timed out: 'npx'" := by
  intro why launcher plan spec site
  have hrunner : plan.runner = launcher.runner (some .zero) plan.verbose := rfl
  have htask : spec.task = .command ["npx", "turbo", "run", "lint"] := rfl
  have hrefused : ∀ fault, (launcher ⟨⟨["npx", "turbo", "run", "lint"], plan.root⟩, some .zero⟩ site).1 =
      .refused fault → fault.kind = .system := by
    rintro fault ⟨⟩
    rfl
  obtain ⟨outcome, hstep, -, -, hother, -, -⟩ := command_stage_outcome hrunner htask rfl rfl hrefused
  obtain ⟨hfailed, hreason, -, -⟩ := hother nofun
  refine ⟨outcome, hstep, hfailed, hreason.trans ?_⟩
  decide +kernel

end Verification

end PreMerge
