import PreMerge.Proofs.Run.Bookkeeping
import PreMerge.Proofs.Run.Recorded

/-! Two runs compared. What a step records besides its time comes from the files and from the answer to the call
that it makes of the runner (`Records.agree`). So in runs that leave the files alone, a step whose call is
answered alike records alike, whatever the calls of other steps come to (`failures_stay_in_their_steps`), and to
leave the build out changes nothing about the steps that remain (`skipping_only_leaves_out`). -/

namespace PreMerge

/-- Scans of the same files that share their encodings end alike, as long as all their records can be written. -/
theorem Performance.scan_ending_congr {σ τ : Type} {site : Site σ} {site' : Site τ} {around : Surroundings σ}
    {around' : Surroundings τ} {stamp stamp' : Binary64 → Option Fault} (htree : site.tree = site'.tree)
    (hnaming : around.naming = around'.naming) (houtput : around.output = around'.output)
    (hstamps : stamp site.now = none ∧ stamp (around.selected site) = none ∧ stamp (around.scanned site) = none)
    (hstamps' : stamp' site'.now = none ∧ stamp' (around'.selected site') = none ∧
      stamp' (around'.scanned site') = none) (root : Path) :
    (scan root around site stamp).ending = (scan root around' site' stamp').ending := by
  obtain ⟨hnow, hselected, hscanned⟩ := hstamps
  obtain ⟨hnow', hselected', hscanned'⟩ := hstamps'
  have hconditions : around.conditions site stamp = around'.conditions site' stamp' := by
    rw [Surroundings.conditions, Surroundings.conditions, hselected, hselected', hnaming, houtput]
  unfold scan
  rw [hnow, hnow', hscanned, hscanned', hconditions, hnaming, htree]
  dsimp only
  split
  · rfl
  · rfl
  · split
    · rfl
    · rfl

namespace Verification

variable {σ τ : Type} {plan : Verification σ} {other : Verification τ} {spec : Spec}

/-- What the call comes to that a step makes of the runner, if it makes one. -/
def answer? (plan : Verification σ) (spec : Spec) (site : Site σ) : Option (Except Fault Unit) :=
  (plan.request? spec).map fun request => (plan.runner request site).result

/-- What the calls of a run come to, step by step. -/
def answers (plan : Verification σ) (specs : List Spec) (site : Site σ) : List (Option (Except Fault Unit)) :=
  (plan.course specs site).map fun start => plan.answer? start.1 start.2

/-- A run whose calls fail their steps at most, change no files, and take finite times. -/
structure Calm (plan : Verification σ) (site : Site σ) : Prop where
  spares : ∀ start ∈ plan.course plan.specs site, plan.Spares start.1 start.2
  tree : ∀ start ∈ plan.course plan.specs site, (plan.after start.1 start.2).tree = start.2.tree
  times : plan.TimesFinite site

/-- Whatever a run asks of it, a runner that fails steps at most and leaves files alone keeps the run calm. -/
theorem calm_of_runner {site : Site σ} (hrunner : plan.runner.Contained)
    (htree : ∀ request before, (plan.runner request before).site.tree = before.tree)
    (htimes : plan.TimesFinite site) : plan.Calm site := by
  refine ⟨fun start _ => spares_of_contained hrunner start.1 start.2, fun start _ => ?_, htimes⟩
  unfold after
  split
  · rfl
  · split
    · exact htree _ start.2
    · rfl

theorem Calm.faults {site : Site σ} (h : plan.Calm site) :
    ∀ start ∈ plan.course plan.specs site, (plan.stage start.1 start.2).fault = none :=
  course_faults h.spares (Binary64.isFinite_of_isFinite_sub h.times.whole).2 h.times.step

theorem Calm.run {site : Site σ} (h : plan.Calm site) :
    (plan.run site).fault = none ∧
      List.Forall₂ plan.Recorded (plan.course plan.specs site) (plan.run site).report.steps := by
  have hrun := plan.run_eq_of_course h.faults
  rw [hrun]
  exact ⟨Announcement.summary_fault h.times.whole, steps_recorded h.faults⟩

theorem request?_congr (hroot : plan.root = other.root) (homits : plan.omits spec = other.omits spec) :
    plan.request? spec = other.request? spec := by
  unfold request?
  rw [homits, hroot]

/-- Two runs below the same root, with the same encodings of file names and of the output. -/
structure Alike (plan : Verification σ) (other : Verification τ) : Prop where
  root : plan.root = other.root
  naming : plan.around.naming = other.around.naming
  output : plan.around.output = other.around.output

theorem work_ending_congr {before : Site σ} {before' : Site τ} (halike : plan.Alike other)
    (htree : before.tree = before'.tree) (hrun : plan.omits spec = false) (hrun' : other.omits spec = false)
    (htimed : plan.Timed spec before) (htimed' : other.Timed spec before')
    (hanswer : plan.answer? spec before = other.answer? spec before') :
    (plan.work spec before).ending = (other.work spec before').ending := by
  cases htask : spec.task with
  | scan =>
      rw [work_scan htask, work_scan htask, halike.root]
      exact Performance.scan_ending_congr htree halike.naming halike.output (htimed.stamps htask)
        (htimed'.stamps htask) other.root
  | command argv =>
      rw [answer?, answer?, request?_of_command hrun htask, request?_of_command hrun' htask, Option.map_some,
        Option.map_some] at hanswer
      rw [work_command htask, work_command htask, Option.some.inj hanswer]

/-- Steps of two runs record alike if they find the same files and if their calls are answered alike. -/
theorem Records.agree {before : Site σ} {before' : Site τ} {outcome outcome' : Outcome}
    (h : plan.Records spec before outcome) (h' : other.Records spec before' outcome')
    (halike : plan.Alike other) (homits : plan.omits spec = other.omits spec) (htree : before.tree = before'.tree)
    (htimed : plan.omits spec = false → plan.Timed spec before)
    (htimed' : other.omits spec = false → other.Timed spec before')
    (hanswer : plan.answer? spec before = other.answer? spec before') :
    outcome.result = outcome'.result ∧ outcome.reason = outcome'.reason := by
  cases h with
  | omitted hyes =>
      cases h' with
      | omitted => exact ⟨rfl, rfl⟩
      | judged hno =>
          rw [homits, hno] at hyes
          cases hyes
  | judged hrun hverdict =>
      cases h' with
      | omitted hyes =>
          rw [homits, hyes] at hrun
          cases hrun
      | judged hrun' hverdict' =>
          rw [work_ending_congr halike htree hrun hrun' (htimed hrun) (htimed' hrun') hanswer, hverdict'] at hverdict
          cases hverdict
          exact ⟨rfl, rfl⟩

/-- Where two runs over the same files have come equally far, they are at the same step, with the same files. -/
theorem exists_starts {specs : List Spec} {site : Site σ} {site' : Site τ} (htree : site.tree = site'.tree)
    (hkeeps : ∀ start ∈ plan.course specs site, (plan.after start.1 start.2).tree = start.2.tree)
    (hkeeps' : ∀ start ∈ other.course specs site', (other.after start.1 start.2).tree = start.2.tree)
    {steps steps' : List Step} (hsteps : List.Forall₂ plan.Recorded (plan.course specs site) steps)
    (hsteps' : List.Forall₂ other.Recorded (other.course specs site') steps') {i : Nat} {step step' : Step}
    (hstep : steps[i]? = some step) (hstep' : steps'[i]? = some step') :
    ∃ spec before before', before.tree = before'.tree ∧
      (spec, before) ∈ plan.course specs site ∧ (spec, before') ∈ other.course specs site' ∧
      plan.Recorded (spec, before) step ∧ (plan.answers specs site)[i]? = some (plan.answer? spec before) ∧
      other.Recorded (spec, before') step' ∧
      (other.answers specs site')[i]? = some (other.answer? spec before') := by
  -- Along the steps the two sites may part in everything but the files, so both are generalized.
  induction specs generalizing site site' steps steps' i with
  | nil =>
      cases hsteps
      cases hstep
  | cons spec rest ih =>
      rw [course, List.forall_mem_cons] at hkeeps hkeeps'
      cases hsteps with
      | cons hfirst hrest =>
          cases hsteps' with
          | cons hfirst' hrest' =>
              cases i with
              | zero =>
                  cases hstep
                  cases hstep'
                  exact ⟨spec, site, site', htree, List.mem_cons_self, List.mem_cons_self, hfirst, rfl, hfirst', rfl⟩
              | succ i =>
                  have hafter : (plan.after spec site).tree = (other.after spec site').tree := by
                    rw [hkeeps.1, hkeeps'.1, htree]
                  obtain ⟨next, before, before', hbefore, hmem, hmem', htold⟩ :=
                    ih hafter hkeeps.2 hkeeps'.2 hrest hrest' hstep hstep'
                  exact ⟨next, before, before', hbefore, List.mem_cons_of_mem _ hmem, List.mem_cons_of_mem _ hmem',
                    htold⟩

theorem Calm.requests {site : Site σ} (h : plan.Calm site) (hlaunches : plan.Launches plan.specs site) :
    (plan.run site).requests = plan.specs.filterMap plan.request? := by
  rw [plan.run_eq_of_course h.faults]
  exact plan.requests_course hlaunches

/-- A step fails by itself. Let two runs of the same steps over the same files differ in what the calls of the
steps in `K` come to, and in the times. Both come to their end and start the same commands in the same order,
and every other step has the same result in both, for the same reason. -/
theorem failures_stay_in_their_steps (K : Set Nat) {site : Site σ} {site' : Site τ}
    (hspecs : plan.specs = other.specs) (halike : plan.Alike other)
    (hskip : plan.skipBuild = other.skipBuild) (htree : site.tree = site'.tree)
    (hcalm : plan.Calm site) (hcalm' : other.Calm site')
    (hanswers : ∀ i, i ∉ K → (plan.answers plan.specs site)[i]? = (other.answers other.specs site')[i]?) :
    (plan.run site).fault = none ∧ (other.run site').fault = none ∧
    (plan.Launches plan.specs site → other.Launches other.specs site' →
      (plan.run site).requests = (other.run site').requests) ∧
    (plan.run site).report.steps.map (·.spec) = plan.specs ∧
    (other.run site').report.steps.map (·.spec) = plan.specs ∧
    ∀ i, i ∉ K → ∀ step step', (plan.run site).report.steps[i]? = some step →
      (other.run site').report.steps[i]? = some step' →
      step.result = step'.result ∧ step.reason = step'.reason := by
  obtain ⟨hfault, hsteps⟩ := hcalm.run
  obtain ⟨hfault', hsteps'⟩ := hcalm'.run
  have homits : ∀ spec, plan.omits spec = other.omits spec := fun spec => by rw [omits, omits, hskip]
  refine ⟨hfault, hfault', ?_, ?_, ?_, ?_⟩
  · intro hlaunches hlaunches'
    rw [hcalm.requests hlaunches, hcalm'.requests hlaunches', hspecs]
    exact List.filterMap_congr fun spec _ => request?_congr halike.root (homits spec)
  · rw [(steps_of_recorded hsteps).1, map_fst_course]
  · rw [(steps_of_recorded hsteps').1, map_fst_course, hspecs]
  · intro i hi step step' hstep hstep'
    have hanswer := hanswers i hi
    have hkeeps' := hcalm'.tree
    have htimes' := hcalm'.times.step
    rw [← hspecs] at hsteps' hanswer hkeeps' htimes'
    obtain ⟨spec, before, before', hbefore, hmem, hmem', ⟨outcome, rfl, hrecords⟩, hcall, ⟨outcome', rfl, hrecords'⟩,
      hcall'⟩ := exists_starts htree hcalm.tree hkeeps' hsteps hsteps' hstep hstep'
    rw [hcall, hcall'] at hanswer
    obtain ⟨hresult, hreason⟩ :=
      hrecords.agree hrecords' halike (homits spec) hbefore (hcalm.times.step _ hmem) (htimes' _ hmem')
        (Option.some.inj hanswer)
    exact ⟨congrArg some hresult, hreason⟩

/-- In one run the lint fails at once, in the other it breaks down after a while. A scan and a build follow. -/
theorem failures_stay_in_their_steps_of_lint :
    let runner : Fault → Binary64 → Runner Unit := fun fault takes request site =>
      { result := if request.argv = ["lint"] then .error fault else .ok ()
        site := { site with now := if request.argv = ["lint"] then site.now + takes else site.now } }
    let plan : Runner Unit → Verification Unit := fun runner =>
      { root := .ofString "."
        runner := runner
        specs := [⟨1, "lint", "Lint", .command ["lint"], false⟩, ⟨2, "scan", "Scan", .scan, false⟩,
          ⟨3, "build", "Build", .command ["build"], true⟩] }
    let first := plan (runner (.ofText .stepFailed "lint exited with code 1") .zero)
    let second := plan (runner (.ofText .general "out of memory") (.ofRatio false 7 2))
    let site : Site Unit :=
      ⟨⟨.directory [("apps", .directory [("a.ts", .ofBytes ("x as any".toList.map (·.toNat.toUInt8)))])], [],
        Path.isAmong []⟩, .zero, ()⟩
    first.Calm site ∧ second.Calm site ∧
    (∀ i, i ∉ ({0} : Set Nat) → (first.answers first.specs site)[i]? = (second.answers second.specs site)[i]?) ∧
    (first.run site).requests = (second.run site).requests ∧
    ∀ step step', (first.run site).report.steps[1]? = some step →
      (second.run site).report.steps[1]? = some step' → step.result = step'.result ∧ step.reason = step'.reason := by
  intro runner plan first second site
  have hcontained : ∀ fault takes, fault.kind.interrupts = false → (plan (runner fault takes)).runner.Contained := by
    intro fault takes hfault request before other hother
    dsimp only [plan, runner] at hother
    split at hother
    · cases hother
      exact hfault
    · cases hother
  have hfirst : first.Calm site :=
    calm_of_runner (hcontained _ _ rfl) (fun _ _ => rfl) ⟨by decide +kernel, by decide +kernel⟩
  have hsecond : second.Calm site :=
    calm_of_runner (hcontained _ _ rfl) (fun _ _ => rfl) ⟨by decide +kernel, by decide +kernel⟩
  have hanswers : ∀ i, i ∉ ({0} : Set Nat) →
      (first.answers first.specs site)[i]? = (second.answers second.specs site)[i]? := by
    rintro (_ | i) hi
    · exact absurd rfl hi
    · rfl
  have hspecs : first.specs = second.specs := rfl
  have halike : first.Alike second := ⟨rfl, rfl, rfl⟩
  have hskip : first.skipBuild = second.skipBuild := rfl
  obtain ⟨-, -, hrequests, -, -, hsteps⟩ :=
    failures_stay_in_their_steps {0} hspecs halike hskip rfl hfirst hsecond hanswers
  exact ⟨hfirst, hsecond, hanswers, hrequests (fun _ _ _ _ => rfl) (fun _ _ _ _ => rfl),
    hsteps 1 Nat.one_ne_zero⟩

/-- The same run with the operator's choice to leave the build out, or not to. -/
def skipping (plan : Verification σ) (skip : Bool) : Verification σ :=
  { plan with skipBuild := skip }

theorem omits_skipping (skip : Bool) (spec : Spec) : (plan.skipping skip).omits spec = (spec.skippable && skip) :=
  rfl

/-- What becomes of a step when the build is left out, and what becomes of it otherwise. -/
structure LeftOut (left full : Step) : Prop where
  spec : left.spec = full.spec
  skipped : left.spec.skippable = true →
    left.result = some .skipped ∧ left.elapsed = .zero ∧ left.reason = "via --skip-build"
  kept : left.spec.skippable = false → left.result = full.result ∧ left.reason = full.reason

theorem request?_skipping (plan : Verification σ) (spec : Spec) : (plan.skipping true).request? spec =
    if spec.skippable then none else (plan.skipping false).request? spec := by
  unfold request?
  rw [omits_skipping, omits_skipping, Bool.and_true, Bool.and_false, if_neg Bool.false_ne_true]
  rfl

theorem leftOut_of_recorded {before before' : Site σ} {left full : Step}
    (hsame : ∀ request first second, (plan.runner request first).result = (plan.runner request second).result)
    (htree : before.tree = before'.tree)
    (htimed : (plan.skipping true).omits spec = false → (plan.skipping true).Timed spec before)
    (htimed' : (plan.skipping false).omits spec = false → (plan.skipping false).Timed spec before')
    (h : (plan.skipping true).Recorded (spec, before) left)
    (h' : (plan.skipping false).Recorded (spec, before') full) : LeftOut left full := by
  obtain ⟨outcome, rfl, hrecords⟩ := h
  obtain ⟨outcome', rfl, hrecords'⟩ := h'
  refine ⟨rfl, fun hskippable => ?_, fun hkept => ?_⟩
  · dsimp only at hskippable
    cases hrecords with
    | omitted => exact ⟨rfl, rfl, rfl⟩
    | judged hrun =>
        rw [omits_skipping, hskippable] at hrun
        cases hrun
  · dsimp only at hkept
    have homits : (plan.skipping true).omits spec = (plan.skipping false).omits spec := by
      rw [omits_skipping, omits_skipping, hkept, Bool.false_and, Bool.false_and]
    have hrequest : (plan.skipping true).request? spec = (plan.skipping false).request? spec :=
      request?_congr rfl homits
    -- The clocks differ by what the skipped steps would have taken, and the runner may not look at them.
    have hanswer : (plan.skipping true).answer? spec before = (plan.skipping false).answer? spec before' := by
      rw [answer?, answer?, hrequest]
      exact congrArg (Option.map · _) (funext fun request => hsame request before before')
    obtain ⟨hresult, hreason⟩ := hrecords.agree hrecords' ⟨rfl, rfl, rfl⟩ homits htree htimed htimed' hanswer
    exact ⟨congrArg some hresult, hreason⟩

/-- The steps that fail in a full run are those that fail without the build, and those of the build. -/
theorem countP_failed_of_leftOut {left full : List Step} (h : List.Forall₂ LeftOut left full) :
    full.countP (·.result = some .failed) = left.countP (·.result = some .failed) +
      full.countP fun step => step.spec.skippable && step.result = some .failed := by
  induction h with
  | nil => rfl
  | @cons left full _ _ hfirst _ ih =>
      have hspec := hfirst.spec
      rw [List.countP_cons, List.countP_cons, List.countP_cons, ih]
      cases hskippable : left.spec.skippable with
      | true =>
          rw [(hfirst.skipped hskippable).1, ← hspec, hskippable, Bool.true_and]
          simp
          omega
      | false =>
          rw [(hfirst.kept hskippable).1, ← hspec, hskippable, Bool.false_and]
          simp
          omega

/-- To leave the build out takes away what may be left out, and nothing else. Let the answers to calls depend on
nothing but the commands and the root. Every step that may be left out is then skipped and takes no time, and its
command is not started; all others have the same result for the same reason, and start the same commands in the
same order. So only failures of what is left out go, and the exit code does not grow. -/
theorem skipping_only_leaves_out (plan : Verification σ) {site site' : Site σ} (htree : site.tree = site'.tree)
    (hsame : ∀ request first second, (plan.runner request first).result = (plan.runner request second).result)
    (hleft : (plan.skipping true).Calm site) (hfull : (plan.skipping false).Calm site') :
    let left := (plan.skipping true).run site
    let full := (plan.skipping false).run site'
    left.fault = none ∧ full.fault = none ∧
    full.report.steps.map (·.spec) = plan.specs ∧ List.Forall₂ LeftOut left.report.steps full.report.steps ∧
    ((plan.skipping true).Launches plan.specs site → (plan.skipping false).Launches plan.specs site' →
      full.requests = plan.specs.filterMap (plan.skipping false).request? ∧
      left.requests = (plan.specs.filter (!·.skippable)).filterMap (plan.skipping false).request?) ∧
    full.report.failed = left.report.failed +
      full.report.steps.countP (fun step => step.spec.skippable && step.result = some .failed) ∧
    left.report.exitCode ≤ full.report.exitCode := by
  intro left full
  obtain ⟨hfault, hsteps⟩ := hleft.run
  obtain ⟨hfault', hsteps'⟩ := hfull.run
  have hspecs : left.report.steps.map (·.spec) = plan.specs := by
    rw [(steps_of_recorded hsteps).1, map_fst_course]
    rfl
  have hspecs' : full.report.steps.map (·.spec) = plan.specs := by
    rw [(steps_of_recorded hsteps').1, map_fst_course]
    rfl
  have hleftOut : List.Forall₂ LeftOut left.report.steps full.report.steps := by
    refine List.forall₂_iff_get.mpr ⟨?_, fun i hi hi' => ?_⟩
    · rw [← List.length_map (f := Step.spec), hspecs, ← hspecs', List.length_map]
    · obtain ⟨spec, before, before', hbefore, hmem, hmem', hrecorded, -, hrecorded', -⟩ :=
        exists_starts htree hleft.tree hfull.tree hsteps hsteps' (List.getElem?_eq_getElem hi)
          (List.getElem?_eq_getElem hi')
      exact leftOut_of_recorded hsame hbefore (hleft.times.step _ hmem) (hfull.times.step _ hmem') hrecorded hrecorded'
  have hfailed := countP_failed_of_leftOut hleftOut
  refine ⟨hfault, hfault', hspecs', hleftOut, ?_, hfailed, Report.exitCode_le ?_⟩
  · intro hlaunches hlaunches'
    refine ⟨hfull.requests hlaunches', ?_⟩
    have hrequests : left.requests = plan.specs.filterMap (plan.skipping true).request? := hleft.requests hlaunches
    rw [hrequests, List.filterMap_filter]
    refine List.filterMap_congr fun spec _ => ?_
    rw [request?_skipping]
    cases spec.skippable <;> rfl
  · exact Nat.le.intro hfailed.symm

/-- A scan and a build may be left out, and both fail if they are not. -/
theorem skipping_only_leaves_out_of_scan :
    let plan : Verification Unit :=
      { root := .ofString "."
        runner := fun request site =>
          { result := if request.argv = ["test"] then .ok () else .error (.ofText .stepFailed "failed"), site }
        specs := [⟨1, "lint", "Lint", .command ["lint"], false⟩, ⟨2, "scan", "Scan", .scan, true⟩,
          ⟨3, "build", "Build", .command ["build"], true⟩, ⟨4, "test", "Test", .command ["test"], false⟩] }
    let site : Site Unit :=
      ⟨⟨.directory [("apps", .directory [("a.ts", .ofBytes ("x as any".toList.map (·.toNat.toUInt8)))])], [],
        Path.isAmong []⟩, .zero, ()⟩
    (∀ request first second, (plan.runner request first).result = (plan.runner request second).result) ∧
    (plan.skipping true).Calm site ∧ (plan.skipping false).Calm site ∧
    ((plan.skipping true).run site).requests = [⟨["lint"], .ofString "."⟩, ⟨["test"], .ofString "."⟩] ∧
    ((plan.skipping false).run site).report.failed = ((plan.skipping true).run site).report.failed + 2 := by
  intro plan site
  have hsame : ∀ request first second,
      (plan.runner request first).result = (plan.runner request second).result := fun _ _ _ => rfl
  have hcontained : plan.runner.Contained := by
    intro request before fault hfault
    dsimp only [plan] at hfault
    split at hfault
    · cases hfault
    · cases hfault
      rfl
  have hleft : (plan.skipping true).Calm site :=
    calm_of_runner hcontained (fun _ _ => rfl) ⟨by decide +kernel, by decide +kernel⟩
  have hfull : (plan.skipping false).Calm site :=
    calm_of_runner hcontained (fun _ _ => rfl) ⟨by decide +kernel, by decide +kernel⟩
  obtain ⟨-, -, -, -, hrequests, hfailed, -⟩ := skipping_only_leaves_out plan rfl hsame hleft hfull
  refine ⟨hsame, hleft, hfull, (hrequests (fun _ _ _ _ => rfl) fun _ _ _ _ => rfl).2, ?_⟩
  rw [hfailed]
  congr 1
  decide +kernel

end Verification

end PreMerge
