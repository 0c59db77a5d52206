import Mathlib.Data.List.Forall2
import PreMerge.Run.Verification

/-! The course of a run: every step with the site it starts from. Only the runner changes a site, and a scan its clock,
so the course is known before anything is announced or recorded. As long as no fault interrupts a stage, the
stages of a run are those of its course (`stages_eq_course`). A runner is contained if its calls fail steps
and spare the run; one that starts processes is (`Launcher.contained`). -/

namespace PreMerge

namespace Binary64

theorem isFinite_of_isFinite_sub {x y : Binary64} (h : (x - y).isFinite = true) :
    x.isFinite = true ∧ y.isFinite = true := by
  cases x with
  | nan => simp [HSub.hSub, Sub.sub, nan_add, isFinite] at h
  | infinity s =>
      cases y with
      | nan => cases h
      | infinity t =>
          change (if s = !t then infinity s else nan).isFinite = true at h
          split at h <;> cases h
      | finite => cases h
  | finite =>
      cases y with
      | nan => cases h
      | infinity => cases h
      | finite => exact ⟨rfl, rfl⟩

theorem isFinite_sub_self {x : Binary64} (h : x.isFinite = true) : (x - x).isFinite = true := by
  cases x with
  | nan => cases h
  | infinity negative => cases h
  | finite negative mantissa scale =>
      have hcancel :
          signed negative (magnitude mantissa scale) + signed (!negative) (magnitude mantissa scale) = 0 := by
        cases negative with
        | true => exact Int.add_left_neg _
        | false => exact Int.add_right_neg _
      show (ofSigned (negative && !negative)
        (signed negative (magnitude mantissa scale) + signed (!negative) (magnitude mantissa scale))).isFinite = true
      rw [hcancel]
      rfl

theorem exists_truncate_of_isFinite {x : Binary64} (h : x.isFinite = true) :
    ∃ seconds, x.truncate = .ok seconds := by
  cases x with
  | finite => exact ⟨_, rfl⟩
  | nan => cases h
  | infinity => cases h

end Binary64

/-- While the clock shows a number of seconds, every record can be written. -/
theorem stampFault?_eq_none {now : Binary64} (h : now.isFinite = true) (verbose : Bool) (level : Level) :
    stampFault? verbose level now = none := by
  obtain ⟨seconds, hseconds⟩ := Binary64.exists_truncate_of_isFinite h
  simp [stampFault?, hseconds]

theorem stampFault?_contained {verbose : Bool} {level : Level} {now : Binary64} {fault : Fault}
    (h : stampFault? verbose level now = some fault) : fault.kind.interrupts = false := by
  unfold stampFault? at h
  split at h
  · cases now <;> cases h <;> rfl
  · cases h

theorem Announcement.ofStep_fault {step : Step} (h : step.elapsed.isFinite = true) :
    (Announcement.ofStep step).fault = none := by
  obtain ⟨spec, outcome⟩ := step
  cases outcome with
  | none => rfl
  | some outcome =>
      obtain ⟨seconds, hseconds⟩ := Binary64.exists_truncate_of_isFinite (x := outcome.elapsed) h
      simp [Announcement.ofStep, hseconds]

theorem Announcement.summary_fault {report : Report} (h : report.elapsed.isFinite = true) :
    (Announcement.summary report).fault = none := by
  obtain ⟨seconds, hseconds⟩ := Binary64.exists_truncate_of_isFinite h
  simp [Announcement.summary, hseconds]

/-- A scan moves the clock, and launches nothing. -/
theorem Performance.scan_keeps {σ : Type} (root : Path) (around : Surroundings σ) (site : Site σ)
    (stamp : Binary64 → Option Fault) :
    (Performance.scan root around site stamp).site = around.after site ∧
      (Performance.scan root around site stamp).requests = [] := by
  unfold Performance.scan
  dsimp only
  split
  · exact ⟨rfl, rfl⟩
  · exact ⟨rfl, rfl⟩
  · split
    · exact ⟨rfl, rfl⟩
    · exact ⟨rfl, rfl⟩

theorem Performance.surpriseFault?_eq_none {σ : Type} {work : Performance σ}
    (h : work.site.now.isFinite = true) : work.surpriseFault? = none := by
  rw [surpriseFault?, stampFault?_eq_none h]
  exact ite_self none

/-- Calls of the runner return, or raise a fault that fails the step and spares the run. -/
def Runner.Contained {σ : Type} (runner : Runner σ) : Prop :=
  ∀ request site fault, (runner request site).result = .error fault → fault.kind.interrupts = false

theorem Launch.judge_contained {argv : List String} {ending : Ending} {fault : Fault}
    (hrefused : ∀ why, ending = .refused why → why.kind.interrupts = false)
    (h : Launch.judge argv ending = .error fault) : fault.kind.interrupts = false := by
  have hfailure : ∀ reason, (Launch.failure argv reason).kind.interrupts = false := by
    intro reason
    cases argv <;> rfl
  cases ending with
  | exited code =>
      rw [Launch.judge] at h
      split at h
      · cases h
      · cases h
        exact hfailure _
  | timedOut seconds =>
      cases h
      exact hfailure _
  | refused why =>
      rw [Launch.judge] at h
      split at h
      · cases h
        exact hfailure _
      · split at h
        · cases h
          exact hfailure _
        · cases h
          exact hrefused _ rfl

/-- Commands that run as processes do not break a run off, unless the operator does so at their start. -/
theorem Launcher.contained {σ : Type} {launcher : Launcher σ}
    (hrefused : ∀ launch site why, (launcher launch site).1 = .refused why → why.kind.interrupts = false)
    (timeout : Option Binary64) (verbose : Bool) : (launcher.runner timeout verbose).Contained := by
  intro request site fault h
  unfold Launcher.runner at h
  split at h
  · next stamp hstamp =>
      cases h
      exact stampFault?_contained hstamp
  · exact Launch.judge_contained (hrefused ⟨request, timeout⟩ site) h

theorem Launcher.launched {σ : Type} (launcher : Launcher σ) (timeout : Option Binary64) (verbose : Bool)
    (request : Request) {site : Site σ} (hclock : site.now.isFinite = true) :
    (launcher.runner timeout verbose request site).launched = true := by
  unfold Launcher.runner
  rw [stampFault?_eq_none hclock]

namespace Verification

variable {σ : Type} (plan : Verification σ)

/-- The request that a step makes of the runner. A scan makes none, and neither does a step that is left
out. -/
def request? (spec : Spec) : Option Request :=
  if plan.omits spec then none
  else match spec.task with
    | .command argv => some ⟨argv, plan.root⟩
    | .scan => none

/-- The site that a step leaves behind. A step that is left out leaves everything as it is. -/
def after (spec : Spec) (site : Site σ) : Site σ :=
  if plan.omits spec then site
  else match spec.task with
    | .command argv => (plan.runner ⟨argv, plan.root⟩ site).site
    | .scan => plan.around.after site

/-- Each step with the site it starts from. -/
def course : List Spec → Site σ → List (Spec × Site σ)
  | [], _ => []
  | spec :: rest, site => (spec, site) :: course rest (plan.after spec site)

/-- The site that steps leave behind. -/
def finish (specs : List Spec) (site : Site σ) : Site σ :=
  specs.foldl (fun before spec => plan.after spec before) site

/-- The work of a step that is not left out. -/
def work (spec : Spec) (site : Site σ) : Performance σ :=
  Performance.ofTask plan.root plan.runner plan.around spec.task site (stampFault? plan.verbose .debug)

/-- The times that are measured in a step are finite: its own, and that of its scan if it scans. -/
def Timed (spec : Spec) (site : Site σ) : Prop :=
  ((plan.after spec site).now - site.now).isFinite = true ∧
    (spec.task = .scan → (plan.around.took site).isFinite = true)

instance (spec : Spec) (site : Site σ) : Decidable (plan.Timed spec site) :=
  inferInstanceAs (Decidable (_ ∧ (_ → _)))

/-- Every time that is measured in a run is finite: those of each step that is not left out, and that of the
whole. -/
structure TimesFinite (site : Site σ) : Prop where
  step : ∀ start ∈ plan.course plan.specs site, plan.omits start.1 = false → plan.Timed start.1 start.2
  whole : ((plan.finish plan.specs site).now - site.now).isFinite = true

theorem after_of_omits {spec : Spec} (homits : plan.omits spec = true) (site : Site σ) :
    plan.after spec site = site :=
  if_pos homits

/-- If the times of steps are finite, so is all that the clock shows before and after them. -/
theorem clocks_isFinite {specs : List Spec} {site : Site σ} (hsite : site.now.isFinite = true)
    (htimes : ∀ start ∈ plan.course specs site, plan.omits start.1 = false → plan.Timed start.1 start.2) :
    ∀ start ∈ plan.course specs site,
      start.2.now.isFinite = true ∧ (plan.after start.1 start.2).now.isFinite = true := by
  induction specs generalizing site with
  | nil => nofun
  | cons spec rest ih =>
      rw [course, List.forall_mem_cons] at htimes ⊢
      obtain ⟨hfirst, hrest⟩ := htimes
      have hafter : (plan.after spec site).now.isFinite = true := by
        cases hrun : plan.omits spec with
        | true =>
            rw [plan.after_of_omits hrun]
            exact hsite
        | false => exact (Binary64.isFinite_of_isFinite_sub (hfirst hrun).1).1
      exact ⟨⟨hsite, hafter⟩, ih hafter hrest⟩

theorem map_fst_course (specs : List Spec) (site : Site σ) :
    (plan.course specs site).map Prod.fst = specs := by
  induction specs generalizing site with
  | nil => rfl
  | cons spec rest ih => rw [course, List.map_cons, ih]

theorem work_site {spec : Spec} (hrun : plan.omits spec = false) (site : Site σ) :
    (plan.work spec site).site = plan.after spec site := by
  rw [after, hrun, if_neg Bool.false_ne_true, work]
  cases spec.task with
  | scan => exact (Performance.scan_keeps plan.root plan.around site _).1
  | command argv => rfl

/-- Whatever becomes of a step, the site behind it is the one that its work leaves. -/
theorem stage_site (spec : Spec) (site : Site σ) : (plan.stage spec site).site = plan.after spec site := by
  cases hrun : plan.omits spec with
  | true =>
      rw [stage, if_pos hrun, after, if_pos hrun]
      rfl
  | false =>
      have hsite := plan.work_site hrun site
      rw [stage, if_neg (by simp [hrun])]
      dsimp only
      rw [← work]
      split
      · exact hsite
      · exact hsite
      · exact hsite

/-- A command that comes to a launch is what its step launches. -/
theorem work_requests {spec : Spec} (hrun : plan.omits spec = false) {site : Site σ}
    (hlaunched : ∀ request, plan.request? spec = some request → (plan.runner request site).launched = true) :
    (plan.work spec site).requests = (plan.request? spec).toList := by
  unfold request? at hlaunched ⊢
  rw [hrun, if_neg Bool.false_ne_true] at hlaunched ⊢
  rw [work]
  cases htask : spec.task with
  | scan => exact (Performance.scan_keeps plan.root plan.around site _).2
  | command argv =>
      rw [htask] at hlaunched
      rw [Performance.ofTask, hlaunched _ rfl]
      rfl

theorem stage_requests {spec : Spec} {site : Site σ}
    (hlaunched : ∀ request, plan.request? spec = some request → (plan.runner request site).launched = true) :
    (plan.stage spec site).requests = (plan.request? spec).toList := by
  cases hrun : plan.omits spec with
  | true =>
      rw [stage, if_pos hrun, request?, if_pos hrun]
      rfl
  | false =>
      have hrequests := plan.work_requests hrun hlaunched
      rw [stage, if_neg (by simp [hrun])]
      dsimp only
      rw [← work]
      split
      · exact hrequests
      · exact hrequests
      · exact hrequests

/-- If all calls of the runner come to a launch, the stages of a course launch the requests of its steps. -/
theorem requests_course {specs : List Spec} {site : Site σ}
    (hlaunched : ∀ start ∈ plan.course specs site, ∀ request, plan.request? start.1 = some request →
      (plan.runner request start.2).launched = true) :
    ((plan.course specs site).map fun start => plan.stage start.1 start.2).flatMap (·.requests) =
      specs.filterMap plan.request? := by
  induction specs generalizing site with
  | nil => rfl
  | cons spec rest ih =>
      rw [course, List.forall_mem_cons] at hlaunched
      rw [course, List.map_cons, List.flatMap_cons, plan.stage_requests hlaunched.1, ih hlaunched.2]
      cases hrequest : plan.request? spec with
      | none => rw [List.filterMap_cons_none hrequest, Option.toList_none, List.nil_append]
      | some request => rw [List.filterMap_cons_some hrequest, Option.toList_some, List.singleton_append]

theorem stage_of_omits {spec : Spec} (homits : plan.omits spec = true) (site : Site σ) :
    plan.stage spec site =
      .conclude plan spec { ending := .done, site } ⟨.skipped, .zero, "via --skip-build"⟩ := by
  rw [stage, if_pos homits]

/-- A step that is not left out, and whose work does not end the run, is concluded with the verdict on its
work and with the time that has passed. -/
theorem stage_of_verdict {spec : Spec} {site : Site σ} {result : Result} {reason : String}
    (hrun : plan.omits spec = false) (hsurprise : (plan.work spec site).surpriseFault? = none)
    (hverdict : Performance.verdict (plan.work spec site).ending = .ok (result, reason)) :
    plan.stage spec site =
      .conclude plan spec
        { plan.work spec site with
          log := (plan.work spec site).log ++ Performance.surprise spec.name (plan.work spec site).ending }
        ⟨result, (plan.after spec site).now - site.now, reason⟩ := by
  rw [stage, if_neg (by simp [hrun])]
  dsimp only
  rw [← work, hverdict, hsurprise, ← plan.work_site hrun]

theorem conclude_fault {spec : Spec} {work : Performance σ} {outcome : Outcome}
    (helapsed : outcome.elapsed.isFinite = true) (hclock : work.site.now.isFinite = true) :
    (Stage.conclude plan spec work outcome).fault = none := by
  have hannounced : (Announcement.ofStep ⟨spec, some outcome⟩).fault = none :=
    Announcement.ofStep_fault helapsed
  simp only [Stage.conclude, hannounced, stampFault?_eq_none hclock, Option.or_none]

/-- The stages of a run whose course no fault interrupts are those of the course. -/
theorem stages_eq_course {specs : List Spec} {site : Site σ}
    (hfaults : ∀ start ∈ plan.course specs site, (plan.stage start.1 start.2).fault = none) :
    plan.stages specs site = (plan.course specs site).map fun start => plan.stage start.1 start.2 := by
  induction specs generalizing site with
  | nil => rfl
  | cons spec rest ih =>
      rw [course, List.forall_mem_cons] at hfaults
      rw [stages, hfaults.1, stage_site, ih hfaults.2, course, List.map_cons]

theorem siteAfter_course (specs : List Spec) (site : Site σ) :
    siteAfter site ((plan.course specs site).map fun start => plan.stage start.1 start.2) =
      plan.finish specs site := by
  induction specs generalizing site with
  | nil => rfl
  | cons spec rest ih =>
      have hrest := ih (plan.after spec site)
      rw [finish, List.foldl_cons, ← finish, ← hrest, course, List.map_cons, siteAfter, siteAfter,
        List.getLast?_cons, Option.map_some, Option.getD_some]
      cases ((plan.course rest (plan.after spec site)).map fun start =>
          plan.stage start.1 start.2).getLast? with
      | none => exact plan.stage_site spec site
      | some last => rfl

/-- A run whose course no fault interrupts: what its stages do, one after the other, and the summary. -/
theorem run_eq_of_course {site : Site σ}
    (hfaults : ∀ start ∈ plan.course plan.specs site, (plan.stage start.1 start.2).fault = none) :
    plan.run site =
      let done := (plan.course plan.specs site).map fun start => plan.stage start.1 start.2
      let last := plan.finish plan.specs site
      let report := ({ steps := done.filterMap (·.step), started := site.now } : Report).finish last.now
      let summary := Announcement.summary report
      ⟨report, last, done.flatMap (·.prints) ++ summary.prints, done.flatMap (·.log),
        done.flatMap (·.requests), summary.fault⟩ := by
  have hnone : ((plan.course plan.specs site).map fun start =>
      plan.stage start.1 start.2).findSome? (·.fault) = none := by
    rw [List.findSome?_eq_none_iff]
    intro stage hstage
    obtain ⟨start, hstart, rfl⟩ := List.mem_map.mp hstage
    exact hfaults start hstart
  rw [run, plan.stages_eq_course hfaults, plan.siteAfter_course]
  dsimp only
  rw [hnone]

end Verification

end PreMerge
