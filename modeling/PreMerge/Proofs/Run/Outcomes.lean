import PreMerge.Proofs.Run.Recorded

/-! The outcomes of steps. What is recorded of a step tells what became of it (`Records.accounted`), and every
step is recorded unless the runner breaks off or a time is not finite (`stages_accounted`). Step by step, a run
accounts for everything it was to do (`run_accounts_for_every_step`). -/

namespace PreMerge

/-- What is recorded of a step tells how its work ended. -/
structure Tells (ending : Performance.Ending) (step : Step) : Prop where
  skipped : step.result = some .skipped ↔ ending = .nothingToScan
  passed : step.result = some .passed ↔ ending = .done
  failed : step.result = some .failed ↔ ∃ fault, ending = .failed fault
  stepFailed : ∀ fault, ending = .failed fault → fault.kind.family = .stepFailed → step.reason = fault.message
  system : ∀ fault, ending = .failed fault → fault.kind.family = .system →
    step.reason = "I/O error: " ++ fault.message
  other : ∀ fault, ending = .failed fault → fault.kind.family ≠ .stepFailed → fault.kind.family ≠ .system →
    step.reason = fault.report

theorem Performance.verdict_failed {fault : Fault} {result : Result} {reason : String}
    (h : verdict (.failed fault) = .ok (result, reason)) :
    result = .failed ∧ (fault.kind.family = .stepFailed → reason = fault.message) ∧
      (fault.kind.family = .system → reason = "I/O error: " ++ fault.message) ∧
      (fault.kind.family ≠ .stepFailed → fault.kind.family ≠ .system → reason = fault.report) := by
  rw [verdict] at h
  split at h
  · cases h
  · next hfamily =>
    cases h
    exact ⟨rfl, fun _ => rfl, by simp [hfamily], fun hne => absurd hfamily hne⟩
  · next hfamily =>
    cases h
    exact ⟨rfl, by simp [hfamily], fun _ => rfl, fun _ hne => absurd hfamily hne⟩
  · next hstep hsystem =>
    cases h
    exact ⟨rfl, fun hfamily => absurd hfamily hstep, fun hfamily => absurd hfamily hsystem, fun _ _ => rfl⟩

theorem tells_of_verdict {ending : Performance.Ending} {result : Result} {reason : String}
    (h : Performance.verdict ending = .ok (result, reason)) (spec : Spec) (elapsed : Binary64) :
    Tells ending ⟨spec, some ⟨result, elapsed, reason⟩⟩ := by
  cases ending with
  | done =>
      cases h
      constructor <;> simp [Step.result]
  | nothingToScan =>
      cases h
      constructor <;> simp [Step.result]
  | failed fault =>
      obtain ⟨rfl, hstep, hsystem, hother⟩ := Performance.verdict_failed h
      constructor
      · simp [Step.result]
      · simp [Step.result]
      · simp [Step.result]
      · rintro _ ⟨⟩
        exact hstep
      · rintro _ ⟨⟩
        exact hsystem
      · rintro _ ⟨⟩
        exact hother

namespace Verification

variable {σ : Type} {plan : Verification σ} {spec : Spec} {site : Site σ}

/-- There is nothing to scan for a step: it scans and no file is selected, or the call of its command says so. -/
def Vacant (plan : Verification σ) (spec : Spec) (before : Site σ) : Prop :=
  (spec.task = .scan ∧ ∃ log, Performance.selection plan.root plan.around.naming before.tree none = .ok ([], log)) ∨
    ∃ argv fault, spec.task = .command argv ∧ (plan.runner ⟨argv, plan.root⟩ before).result = .error fault ∧
      fault.kind.family = .nothingToScan

/-- A run keeps account of a step: what is recorded of it tells what became of it, from the site `before` on
which it starts. -/
structure Accounted (plan : Verification σ) (spec : Spec) (before : Site σ) (step : Step) : Prop where
  planned : step.spec = spec
  done : step.done = true
  omitted : step.result = some .skipped ∧ step.reason = "via --skip-build" ↔
    spec.skippable = true ∧ plan.skipBuild = true
  skipped : plan.omits spec = false → (step.result = some .skipped ↔ plan.Vacant spec before)
  tells : plan.omits spec = false → Tells (plan.work spec before).ending step
  returned : ∀ argv, spec.task = .command argv →
    ((plan.work spec before).ending = .done ↔ (plan.runner ⟨argv, plan.root⟩ before).result = .ok ())
  raised : ∀ argv, spec.task = .command argv → ∀ fault, (plan.work spec before).ending = .failed fault ↔
    (plan.runner ⟨argv, plan.root⟩ before).result = .error fault ∧ fault.kind.family ≠ .nothingToScan

theorem work_nothing (hclock : site.now.isFinite = true) :
    (plan.work spec site).ending = .nothingToScan ↔ plan.Vacant spec site := by
  unfold Vacant
  cases htask : spec.task with
  | scan =>
      rw [work_scan htask, Performance.scan_nothing, stampFault?_eq_none hclock]
      simp
  | command argv =>
      rw [work_command htask, Performance.ofExcept_eq_nothingToScan]
      simp

theorem work_returned {argv : List String} (htask : spec.task = .command argv) :
    (plan.work spec site).ending = .done ↔ (plan.runner ⟨argv, plan.root⟩ site).result = .ok () := by
  rw [work_command htask]
  cases (plan.runner ⟨argv, plan.root⟩ site).result with
  | ok => exact iff_of_true rfl rfl
  | error fault =>
      refine iff_of_false ?_ (by simp)
      rw [Performance.Ending.ofExcept]
      split <;> simp

theorem work_raised {argv : List String} (htask : spec.task = .command argv) (fault : Fault) :
    (plan.work spec site).ending = .failed fault ↔
      (plan.runner ⟨argv, plan.root⟩ site).result = .error fault ∧ fault.kind.family ≠ .nothingToScan := by
  rw [work_command htask, Performance.ofExcept_eq_failed]

/-- What is recorded of a step accounts for it. -/
theorem Records.accounted {outcome : Outcome} (h : Records plan spec site outcome)
    (hclock : site.now.isFinite = true) : Accounted plan spec site ⟨spec, some outcome⟩ := by
  cases h with
  | omitted homits =>
      refine ⟨rfl, rfl, ?_, ?_, ?_, fun _ => work_returned, fun _ => work_raised⟩
      · rw [omits, Bool.and_eq_true] at homits
        exact iff_of_true ⟨rfl, rfl⟩ homits
      · intro hno
        rw [homits] at hno
        cases hno
      · intro hno
        rw [homits] at hno
        cases hno
  | judged hrun hverdict =>
      have htells := tells_of_verdict hverdict spec ((plan.after spec site).now - site.now)
      refine ⟨rfl, rfl, ?_, ?_, fun _ => htells, fun _ => work_returned, fun _ => work_raised⟩
      · refine iff_of_false ?_ ?_
        · rintro ⟨hskipped, hreason⟩
          rw [htells.skipped.mp hskipped] at hverdict
          cases hverdict
          have htexts : "no TS/TSX files found to scan" = "via --skip-build" := hreason
          exact absurd htexts (by decide)
        · rw [← Bool.and_eq_true, ← omits, hrun]
          exact Bool.false_ne_true
      · intro _
        rw [htells.skipped, work_nothing hclock]

theorem stages_accounted (hrunner : plan.runner.Contained) {specs : List Spec}
    (hsite : site.now.isFinite = true)
    (htimes : ∀ start ∈ plan.course specs site, plan.omits start.1 = false → plan.Timed start.1 start.2) :
    (∀ start ∈ plan.course specs site, (plan.stage start.1 start.2).fault = none) ∧
    List.Forall₂ (fun start step => Accounted plan start.1 start.2 step) (plan.course specs site)
      (((plan.course specs site).map fun start => plan.stage start.1 start.2).filterMap (·.step)) := by
  have hfaults := course_faults (fun start _ => spares_of_contained hrunner start.1 start.2) hsite htimes
  have hclocks : ∀ start ∈ plan.course specs site, start.2.now.isFinite = true :=
    fun start hstart => (plan.clocks_isFinite hsite htimes start hstart).1
  refine ⟨hfaults, ((List.forall₂_and_left _ _).mpr ⟨hclocks, steps_recorded hfaults⟩).imp ?_⟩
  rintro start step ⟨hclock, outcome, rfl, hrecords⟩
  exact hrecords.accounted hclock

/-- If the runner breaks nothing off and all times are finite, a run comes to its end. Its report accounts for
every step, in order, and the runner was called once for each command that is not left out, in order and at
the root. -/
theorem run_accounts_for_every_step (plan : Verification σ) (site : Site σ) (hrunner : plan.runner.Contained)
    (htimes : plan.TimesFinite site) :
    (plan.run site).fault = none ∧
    (plan.course plan.specs site).map Prod.fst = plan.specs ∧
    List.Forall₂ (fun start step => Accounted plan start.1 start.2 step) (plan.course plan.specs site)
      (plan.run site).report.steps ∧
    (plan.run site).site = plan.specs.foldl (fun before spec => plan.after spec before) site ∧
    ((∀ start ∈ plan.course plan.specs site, ∀ request, plan.request? start.1 = some request →
        (plan.runner request start.2).launched = true) →
      (plan.run site).requests = plan.specs.filterMap plan.request?) := by
  obtain ⟨hlast, hsite⟩ := Binary64.isFinite_of_isFinite_sub htimes.whole
  obtain ⟨hfaults, hsteps⟩ := stages_accounted hrunner hsite htimes.step
  rw [plan.run_eq_of_course hfaults]
  exact ⟨Announcement.summary_fault htimes.whole, plan.map_fst_course plan.specs site, hsteps, rfl,
    plan.requests_course⟩

/-- A command fails, a scan follows all the same, and a step is left out. -/
theorem run_accounts_for_failed_command :
    let launcher : Launcher Unit := fun launch site =>
      (.exited (if launch.request.argv = ["lint"] then 1 else 0), site)
    let plan : Verification Unit :=
      { root := .ofString "."
        runner := launcher.runner none
        specs := [⟨1, "lint", "Lint", .command ["lint"], false⟩, ⟨2, "scan", "Scan", .scan, false⟩,
          ⟨3, "build", "Build", .command ["build"], true⟩]
        skipBuild := true }
    let site : Site Unit := ⟨⟨.directory [("apps", .directory [("a.ts", .ofBytes [])])], [], Path.isAmong []⟩, .zero, ()⟩
    plan.runner.Contained ∧ plan.TimesFinite site ∧ (plan.run site).fault = none ∧
    (plan.run site).requests = [⟨["lint"], .ofString "."⟩] := by
  intro launcher plan site
  have hrefused : ∀ launch site why, (launcher launch site).1 = .refused why → why.kind.interrupts = false := by
    rintro launch before why ⟨⟩
  have hrunner : plan.runner.Contained := Launcher.contained hrefused none true
  have hcourse : plan.course plan.specs site = plan.specs.map (·, site) := rfl
  have htimes : plan.TimesFinite site := ⟨by decide +kernel, by decide +kernel⟩
  obtain ⟨hfault, -, -, -, hrequests⟩ := run_accounts_for_every_step plan site hrunner htimes
  refine ⟨hrunner, htimes, hfault, ?_⟩
  rw [hrequests]
  · rfl
  · intro start hstart request hrequest
    rw [hcourse] at hstart
    obtain ⟨spec, -, rfl⟩ := List.mem_map.mp hstart
    exact Launcher.launched launcher none true request rfl

/-- A command step is skipped if its call says that there is nothing to scan; and no report comes of a run whose time is too
long to be told, although the clock and the times of all steps are finite. -/
theorem run_skips_command_and_ends_by_total :
    let vacant : Fault := ⟨.nothingToScan, []⟩
    let lint : Spec := ⟨1, "lint", "Lint", .command ["lint"], false⟩
    let saying : Verification Unit :=
      { root := .ofString "."
        runner := fun _ site => { result := .error vacant, site }
        specs := [lint] }
    let half : Binary64 := .finite false 0x10000000000000 2045
    let slow : Verification Unit :=
      { root := .ofString "."
        runner := fun _ site => { result := .ok (), site := { site with now := site.now + half } }
        specs := [lint, lint] }
    let site : Site Unit := ⟨⟨.empty, [], Path.isAmong []⟩, .zero, ()⟩
    let early : Site Unit := { site with now := .zero - half }
    (saying.runner.Contained ∧ saying.TimesFinite site ∧
      (saying.run site).report.steps.map (·.result) = [some .skipped] ∧
      (saying.run site).report.steps.map (·.reason) = ["no TS/TSX files found to scan"]) ∧
    (slow.runner.Contained ∧
      (∀ start ∈ slow.course slow.specs early, slow.omits start.1 = false → slow.Timed start.1 start.2) ∧
      (slow.run early).fault.map (·.message) = some "cannot convert float infinity to integer") := by
  intro vacant lint saying half slow site early
  have hsaying : saying.runner.Contained := by
    rintro request before fault ⟨⟩
    rfl
  have hslow : slow.runner.Contained := by
    rintro request before fault ⟨⟩
  refine ⟨⟨hsaying, ⟨?_, ?_⟩, ?_, ?_⟩, hslow, ?_, ?_⟩
  · decide +kernel
  · decide +kernel
  · decide +kernel
  · decide +kernel
  · decide +kernel
  · decide +kernel

end Verification

end PreMerge
