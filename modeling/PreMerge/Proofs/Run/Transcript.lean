import PreMerge.Proofs.Run.Recorded
import PreMerge.Proofs.Run.Summary
import PreMerge.Proofs.Scan.Echo

/-! The transcript of a run, spelled out. Each step shows a block: its header, what the scanner echoes if the step scans,
and the lines about its outcome. A run that comes to its end prints the blocks of its steps and a summary. One that
is broken off prints the blocks of the steps before, and of the step that breaks off nothing but the header
(`run_prints_step_by_step`). -/

namespace PreMerge

theorem Console.text_raw (console : Console) (texts : List String) :
    console.text (texts.map .raw) = String.join texts := by
  induction texts with
  | nil => rfl
  | cons words rest ih =>
      rw [List.map_cons, ← List.singleton_append, text_append, ih, String.join_cons]
      congr 1
      rw [text, List.flatMap_singleton, render, String.ofList_toList]

/-- The title of a part, between rules and below an empty line. -/
def Console.titleText (console : Console) (title : String) : String :=
  console.text [.blank, .rule, .line title .bold, .rule]

/-- The lines about a step that took so many seconds. -/
def Console.outcomeText (console : Console) (label : String) (outcome : Outcome) (seconds : Int) : String :=
  match outcome.result with
  | .passed => console.text [.line ("✓ " ++ label ++ " (" ++ toString seconds ++ "s)") .green]
  | .failed =>
    console.text [.line ("✗ " ++ label ++ " FAILED (" ++ toString seconds ++ "s)") .red] ++
      if outcome.reason = "" then "" else console.text [.line ("  " ++ outcome.reason) .dim]
  | .skipped => console.text [.line ("⊘ " ++ label ++ " skipped (" ++ outcome.reason ++ ")") .yellow]

/-- The end of a run that took so many seconds. -/
def Console.summaryText (console : Console) (report : Report) (seconds : Int) : String :=
  console.titleText "VERIFICATION SUMMARY" ++
    console.text [.line ("  ✓ Passed:  " ++ toString report.passed) .green] ++
    console.text [.line ("  ✗ Failed:  " ++ toString report.failed) (if report.failed = 0 then .dim else .red)] ++
    console.text [.line ("  ⊘ Skipped: " ++ toString report.skipped) (if report.skipped = 0 then .dim else .yellow)] ++
    console.text [.line ("  Total:   " ++ toString report.total ++ " checks in " ++ toString seconds ++ "s") .plain] ++
    console.text [.blank] ++
    if report.failed = 0 then console.text [.line "ALL CHECKS PASSED" .boldGreen]
    else console.text [.line ("VERIFICATION FAILED — " ++ toString report.failed ++ " check(s) did not pass.") .boldRed]

theorem Console.text_header (console : Console) (total : Int) (spec : Spec) :
    console.text (Announcement.header total spec) =
      console.titleText ("[" ++ toString spec.ordinal ++ "/" ++ toString total ++ "] " ++ spec.label) :=
  rfl

theorem Console.text_ofStep (console : Console) {spec : Spec} {outcome : Outcome} {seconds : Int}
    (hseconds : outcome.elapsed.truncate = .ok seconds) :
    console.text (Announcement.ofStep ⟨spec, some outcome⟩).prints =
      console.outcomeText spec.label outcome seconds := by
  obtain ⟨result, elapsed, reason⟩ := outcome
  change elapsed.truncate = .ok seconds at hseconds
  simp only [Announcement.ofStep, hseconds, Announcement.outcomeLines, outcomeText]
  cases result with
  | passed => simp only [String.append_assoc]
  | skipped => rfl
  | failed =>
      dsimp only
      rw [← List.singleton_append, text_append]
      simp only [String.append_assoc]
      split
      · rfl
      · rfl

/-- A summary that is printed to its end tells how many seconds the run took. -/
theorem Announcement.exists_seconds {report : Report} (h : (summary report).fault = none) :
    ∃ seconds, report.elapsed.truncate = .ok seconds := by
  unfold summary at h
  dsimp only at h
  split at h
  · cases h
  · next seconds hseconds => exact ⟨seconds, hseconds⟩

theorem Console.text_summary (console : Console) {report : Report} {seconds : Int}
    (hseconds : report.elapsed.truncate = .ok seconds) :
    console.text (Announcement.summary report).prints = console.summaryText report seconds := by
  have hverdict : console.text [Announcement.verdict report] =
      if report.failed = 0 then console.text [.line "ALL CHECKS PASSED" .boldGreen]
      else console.text
        [.line ("VERIFICATION FAILED — " ++ toString report.failed ++ " check(s) did not pass.") .boldRed] := by
    rw [← apply_ite (fun print => console.text [print])]
    simp only [Announcement.verdict, Report.success, beq_iff_eq]
  rw [Announcement.summary, hseconds, summaryText, ← hverdict]
  simp only [← text_append, titleText]
  rfl

namespace Verification

variable {σ : Type} {plan : Verification σ} {spec : Spec} {site : Site σ}

/-- What the scanner echoes if a step scans the files that it finds. -/
def echo (plan : Verification σ) (spec : Spec) (before : Site σ) : String :=
  let stamp := stampFault? plan.verbose .debug
  if plan.omits spec then ""
  else match spec.task with
    | .command _ => ""
    | .scan =>
      match Performance.selection plan.root plan.around.naming before.tree (stamp before.now) with
      | .error _ | .ok ([], _) => ""
      | .ok (files, _) =>
        (PreMerge.scan Rule.standard before.tree (some plan.root) files (plan.around.conditions before stamp)).1.echo

/-- All that a step prints which starts from a site and is recorded. -/
def block (plan : Verification σ) (console : Console) (start : Spec × Site σ) (step : Step) : String :=
  console.titleText ("[" ++ toString start.1.ordinal ++ "/" ++ toString plan.total ++ "] " ++ start.1.label) ++
    plan.echo start.1 start.2 ++
    match step.outcome with
    | none => ""
    | some outcome =>
      match outcome.elapsed.truncate with
      | .error _ => ""
      | .ok seconds => console.outcomeText step.spec.label outcome seconds

theorem text_shown (plan : Verification σ) (console : Console) (spec : Spec) (site : Site σ) :
    console.text (plan.shown spec site) = plan.echo spec site := by
  unfold shown echo
  dsimp only
  split
  · rfl
  · cases htask : spec.task with
    | command argv =>
        rw [work, htask]
        rfl
    | scan =>
        rw [work, htask, Performance.ofTask, Performance.scan]
        dsimp only
        cases Performance.selection plan.root plan.around.naming site.tree
            (stampFault? plan.verbose .debug site.now) with
        | error fault => rfl
        | ok selected =>
            obtain ⟨files, log⟩ := selected
            cases files with
            | nil => rfl
            | cons file rest =>
                dsimp only
                split
                · exact Console.text_raw console _
                · exact Console.text_raw console _

/-- The echo of a scan that nothing stops spells out its violations. -/
theorem echo_of_complete (hrun : plan.omits spec = false) (htask : spec.task = .scan) {files : List String}
    {log : List Record} (hselected : Performance.selection plan.root plan.around.naming site.tree
      (stampFault? plan.verbose .debug site.now) = .ok (files, log)) (hne : files ≠ []) {findings : Findings}
    (hscan : PreMerge.scan Rule.standard site.tree (some plan.root) files
      (plan.around.conditions site (stampFault? plan.verbose .debug)) = (findings, none)) :
    plan.echo spec site = String.join (findings.violations.map Violation.spelled) := by
  obtain ⟨file, rest, rfl⟩ := List.exists_cons_of_ne_nil hne
  have htold := Scan.scan_told (.inl (by rw [hscan]) :
    (PreMerge.scan Rule.standard site.tree (some plan.root) (file :: rest)
      (plan.around.conditions site (stampFault? plan.verbose .debug))).2 = none ∨ _)
  rw [hscan] at htold
  rw [echo, hrun, if_neg Bool.false_ne_true, htask]
  dsimp only
  rw [hselected]
  dsimp only
  rw [hscan, Findings.echo, htold.shown]

theorem text_block (plan : Verification σ) (console : Console) (spec : Spec) (site : Site σ) (outcome : Outcome) :
    console.text (Announcement.header plan.total spec ++ plan.shown spec site ++
        (Announcement.ofStep ⟨spec, some outcome⟩).prints) =
      plan.block console (spec, site) ⟨spec, some outcome⟩ := by
  rw [Console.text_append, Console.text_append, Console.text_header, text_shown, block]
  congr 1
  dsimp only
  split
  · next hfault => simp only [Announcement.ofStep, hfault]; rfl
  · next hseconds => exact console.text_ofStep hseconds

theorem text_stages {specs : List Spec} (console : Console)
    (hfaults : ∀ start ∈ plan.course specs site, (plan.stage start.1 start.2).fault = none) :
    console.text (((plan.course specs site).map fun start => plan.stage start.1 start.2).flatMap (·.prints)) =
      String.join (List.zipWith (plan.block console) (plan.course specs site)
        (((plan.course specs site).map fun start => plan.stage start.1 start.2).filterMap (·.step))) := by
  induction specs generalizing site with
  | nil => rfl
  | cons spec rest ih =>
      rw [course, List.forall_mem_cons] at hfaults
      obtain ⟨outcome, -, hstep, hprints⟩ := stage_records hfaults.1
      rw [course, List.map_cons, List.flatMap_cons, List.filterMap_cons_some hstep, List.zipWith_cons_cons,
        String.join_cons, Console.text_append, ih hfaults.2, hprints, text_block]

/-- If a run comes to its end, no fault breaks off a stage of its course. -/
theorem course_faults_of_stages {specs : List Spec} (h : ∀ stage ∈ plan.stages specs site, stage.fault = none) :
    ∀ start ∈ plan.course specs site, (plan.stage start.1 start.2).fault = none := by
  induction specs generalizing site with
  | nil => nofun
  | cons spec rest ih =>
      rw [stages] at h
      rw [course, List.forall_mem_cons]
      split at h
      · next fault hfault =>
          rw [h _ (List.mem_singleton.mpr rfl)] at hfault
          cases hfault
      · next hfault =>
          rw [List.forall_mem_cons, stage_site] at h
          exact ⟨hfault, ih h.2⟩

theorem course_faults_of_run (h : (plan.run site).fault = none) :
    ∀ start ∈ plan.course plan.specs site, (plan.stage start.1 start.2).fault = none := by
  refine course_faults_of_stages ?_
  rw [run] at h
  dsimp only at h
  split at h
  · cases h
  · next hnone => exact fun stage hstage => List.findSome?_eq_none_iff.mp hnone stage hstage

theorem course_append (plan : Verification σ) (earlier later : List Spec) (site : Site σ) :
    plan.course (earlier ++ later) site = plan.course earlier site ++ plan.course later (plan.finish earlier site) := by
  induction earlier generalizing site with
  | nil => rfl
  | cons spec rest ih => rw [List.cons_append, course, ih, course, List.cons_append, finish, finish, List.foldl_cons]

/-- A run goes as far as its first stage that is broken off. -/
theorem stages_of_fault {earlier later : List Spec}
    (hfaults : ∀ start ∈ plan.course earlier site, (plan.stage start.1 start.2).fault = none) {fault : Fault}
    (hfault : (plan.stage spec (plan.finish earlier site)).fault = some fault) :
    plan.stages (earlier ++ spec :: later) site =
      (plan.course (earlier ++ [spec]) site).map fun start => plan.stage start.1 start.2 := by
  induction earlier generalizing site with
  | nil =>
      rw [List.nil_append, stages, show (plan.stage spec site).fault = some fault from hfault]
      rfl
  | cons first rest ih =>
      rw [course, List.forall_mem_cons] at hfaults
      rw [List.cons_append, stages, hfaults.1, List.cons_append, course, List.map_cons, stage_site]
      dsimp only
      rw [ih hfaults.2 hfault]

theorem stage_of_interrupt {request : Request} (hrequest : plan.request? spec = some request) {fault : Fault}
    (hresult : (plan.runner request site).result = .error fault) (hinterrupts : fault.kind.interrupts = true) :
    (plan.stage spec site).step = none ∧ (plan.stage spec site).fault = some fault ∧
      (plan.stage spec site).prints = Announcement.header plan.total spec := by
  obtain ⟨hrun, argv, htask, rfl⟩ := exists_command_of_request? hrequest
  have hfamily : fault.kind.family = .interrupting := by simpa [Fault.Kind.interrupts] using hinterrupts
  have hending : Performance.Ending.ofExcept (plan.runner ⟨argv, plan.root⟩ site).result = .failed fault := by
    rw [hresult, Performance.Ending.ofExcept, hfamily, if_neg (by decide)]
  have hverdict : Performance.verdict (.ofExcept (plan.runner ⟨argv, plan.root⟩ site).result) = .error fault := by
    rw [hending, Performance.verdict, hfamily]
  rw [stage, if_neg (by simp [hrun]), htask, Performance.ofTask]
  dsimp only
  rw [hverdict]
  exact ⟨rfl, rfl, List.append_nil _⟩

/-- A run that is broken off: what its stages do, one after the other, and the fault. -/
theorem run_of_fault {earlier later : List Spec} (hspecs : plan.specs = earlier ++ spec :: later)
    (hfaults : ∀ start ∈ plan.course earlier site, (plan.stage start.1 start.2).fault = none) {fault : Fault}
    (hfault : (plan.stage spec (plan.finish earlier site)).fault = some fault) :
    plan.run site =
      let done := (plan.course (earlier ++ [spec]) site).map fun start => plan.stage start.1 start.2
      ⟨{ steps := done.filterMap (·.step), started := site.now }, plan.finish (earlier ++ [spec]) site,
        done.flatMap (·.prints), done.flatMap (·.log), done.flatMap (·.requests), some fault⟩ := by
  have hfirst : ((plan.course earlier site).map fun start =>
      plan.stage start.1 start.2).findSome? (·.fault) = none := by
    rw [List.findSome?_eq_none_iff, List.forall_mem_map]
    exact hfaults
  have hlast : ((plan.course (earlier ++ [spec]) site).map fun start =>
      plan.stage start.1 start.2).findSome? (·.fault) = some fault := by
    rw [course_append, List.map_append, List.findSome?_append, hfirst, Option.none_or]
    simp only [course, List.map_cons, List.map_nil, List.findSome?_cons, hfault]
  rw [run, hspecs, stages_of_fault hfaults hfault, siteAfter_course]
  dsimp only
  rw [hlast]

/-- A run that comes to its end has recorded every step and printed their blocks in order, and then a summary. It
does come to its end if calls fail steps at most and all times are finite. If the call of one step breaks the run
off and the steps before do not, it ends with that fault: the blocks of the steps before have been printed, and
the header of the step itself, and the commands up to this one have been started. The echo in a block spells out
what its scan found, if nothing stopped the scan. -/
theorem run_prints_step_by_step (plan : Verification σ) (site : Site σ) (console : Console) :
    ((∀ start ∈ plan.course plan.specs site, plan.Spares start.1 start.2) → plan.TimesFinite site →
      (plan.run site).fault = none) ∧
    ((plan.run site).fault = none →
      List.Forall₂ plan.Recorded (plan.course plan.specs site) (plan.run site).report.steps ∧
      ∃ seconds, (plan.run site).report.elapsed.truncate = .ok seconds ∧
        console.text (plan.run site).prints =
          String.join (List.zipWith (plan.block console) (plan.course plan.specs site)
            (plan.run site).report.steps) ++ console.summaryText (plan.run site).report seconds) ∧
    (∀ earlier spec later request fault, plan.specs = earlier ++ spec :: later →
      (∀ start ∈ plan.course earlier site, plan.Spares start.1 start.2) → site.now.isFinite = true →
      (∀ start ∈ plan.course earlier site, plan.omits start.1 = false → plan.Timed start.1 start.2) →
      plan.request? spec = some request →
      (plan.runner request (plan.finish earlier site)).result = .error fault → fault.kind.interrupts = true →
      (plan.run site).fault = some fault ∧
      List.Forall₂ plan.Recorded (plan.course earlier site) (plan.run site).report.steps ∧
      console.text (plan.run site).prints =
        String.join (List.zipWith (plan.block console) (plan.course earlier site) (plan.run site).report.steps) ++
          console.titleText ("[" ++ toString spec.ordinal ++ "/" ++ toString plan.total ++ "] " ++ spec.label) ∧
      (plan.Launches (earlier ++ [spec]) site →
        (plan.run site).requests = (earlier ++ [spec]).filterMap plan.request?)) ∧
    ∀ spec before files log findings, plan.omits spec = false → spec.task = .scan →
      Performance.selection plan.root plan.around.naming before.tree (stampFault? plan.verbose .debug before.now) =
        .ok (files, log) → files ≠ [] →
      PreMerge.scan Rule.standard before.tree (some plan.root) files
        (plan.around.conditions before (stampFault? plan.verbose .debug)) = (findings, none) →
      plan.echo spec before = String.join (findings.violations.map Violation.spelled) := by
  refine ⟨fun hspares htimes => ?_, fun hnone => ?_, ?_, ?_⟩
  · have hfaults := course_faults hspares (Binary64.isFinite_of_isFinite_sub htimes.whole).2 htimes.step
    rw [plan.run_eq_of_course hfaults]
    exact Announcement.summary_fault htimes.whole
  · have hfaults := course_faults_of_run hnone
    rw [plan.run_eq_of_course hfaults] at hnone ⊢
    obtain ⟨seconds, hseconds⟩ := Announcement.exists_seconds hnone
    refine ⟨steps_recorded hfaults, seconds, hseconds, ?_⟩
    dsimp only
    rw [Console.text_append, text_stages console hfaults, console.text_summary hseconds]
    rfl
  · intro earlier spec later request fault hspecs hspares hclock htimes hrequest hresult hinterrupts
    have hfaults := course_faults hspares hclock htimes
    obtain ⟨hstep, hfault, hprints⟩ := stage_of_interrupt hrequest hresult hinterrupts
    -- The step that breaks off is in the course but not in the report: it has a header and no block.
    have hsteps : ((plan.course (earlier ++ [spec]) site).map fun start =>
        plan.stage start.1 start.2).filterMap (·.step) =
        ((plan.course earlier site).map fun start => plan.stage start.1 start.2).filterMap (·.step) := by
      rw [course_append, List.map_append, List.filterMap_append, course, List.map_cons,
        List.filterMap_cons_none hstep]
      exact List.append_nil _
    rw [run_of_fault hspecs hfaults hfault]
    dsimp only
    rw [hsteps]
    refine ⟨rfl, steps_recorded hfaults, ?_, plan.requests_course⟩
    rw [course_append, List.map_append, List.flatMap_append, Console.text_append, text_stages console hfaults,
      course, List.map_cons, List.flatMap_cons, hprints, course, List.map_nil, List.flatMap_nil, List.append_nil,
      Console.text_header]
  · intro spec before files log findings hrun htask hselected hne hscan
    exact echo_of_complete hrun htask hselected hne hscan

/-- The lint fails, the scan finds something, and then the operator breaks the build off. -/
theorem run_prints_step_by_step_of_interrupt :
    let lint : Spec := ⟨1, "lint", "Lint", .command ["lint"], false⟩
    let scan : Spec := ⟨2, "scan", "Scan", .scan, false⟩
    let build : Spec := ⟨3, "build", "Build", .command ["build"], true⟩
    let test : Spec := ⟨4, "test", "Test", .command ["test"], false⟩
    let plan : Verification Unit :=
      { root := .ofString "."
        runner := fun request site =>
          { result := .error (if request.argv = ["build"] then ⟨.interrupted, []⟩ else .ofText .stepFailed "failed")
            site }
        specs := [lint, scan, build, test] }
    let site : Site Unit :=
      ⟨⟨.directory [("apps", .directory [("a.ts", .ofBytes ("x as any".toList.map (·.toNat.toUInt8)))])], [],
        Path.isAmong []⟩, .zero, ()⟩
    (plan.run site).fault = some ⟨.interrupted, []⟩ ∧
    (plan.run site).requests = [⟨["lint"], .ofString "."⟩, ⟨["build"], .ofString "."⟩] ∧
    ({ width := 3 } : Console).text (plan.run site).prints =
      "\n───\n[1/4] Lint\n───\n✗ Lint FAILED (0s)\n  failed\n" ++
      "\n───\n[2/4] Scan\n───\n1:x as any\n  BLOCKED: 'as any' in apps/a.ts\n" ++
      "✗ Scan FAILED (0s)\n  1 anti-pattern violation(s) found\n" ++
      "\n───\n[3/4] Build\n───\n" := by
  intro lint scan build test plan site
  have hcourse : plan.course [lint, scan] site = [(lint, site), (scan, site)] := rfl
  have hspares : ∀ start ∈ plan.course [lint, scan] site, plan.Spares start.1 start.2 := by
    rw [hcourse, List.forall_mem_cons, List.forall_mem_singleton]
    refine ⟨?_, nofun⟩
    rintro request ⟨⟩ fault ⟨⟩
    rfl
  have htimes : ∀ start ∈ plan.course [lint, scan] site, plan.omits start.1 = false →
      plan.Timed start.1 start.2 := by decide +kernel
  obtain ⟨-, -, hinterrupted, -⟩ := run_prints_step_by_step plan site { width := 3 }
  obtain ⟨hfault, hrecorded, htext, hrequests⟩ :=
    hinterrupted [lint, scan] build [test] _ ⟨.interrupted, []⟩ rfl hspares rfl htimes rfl rfl rfl
  refine ⟨hfault, hrequests fun _ _ _ _ => rfl, ?_⟩
  have hlint : Performance.verdict (plan.work lint site).ending = .ok (.failed, "failed") := rfl
  have hscan : Performance.verdict (plan.work scan site).ending =
      .ok (.failed, "1 anti-pattern violation(s) found") := by decide +kernel
  have hecho : plan.echo scan site = "1:x as any\n  BLOCKED: 'as any' in apps/a.ts\n" := by decide +kernel
  rw [hcourse] at hrecorded htext
  obtain ⟨_, _, hfirst, hrest, hsteps⟩ := List.forall₂_cons_left_iff.mp hrecorded
  obtain ⟨_, _, hsecond, hend, rfl⟩ := List.forall₂_cons_left_iff.mp hrest
  rw [List.forall₂_nil_left_iff] at hend
  rw [htext, hsteps, hfirst.eq_of_verdict rfl hlint, hsecond.eq_of_verdict rfl hscan, hend]
  simp only [List.zipWith_cons_cons, List.zipWith_nil_left, block, hecho]
  decide +kernel

end Verification

end PreMerge
