import PreMerge.Host.Machine
import PreMerge.Proofs.CommandLine.Verdict

/-! Verification on the host. A launch on the host is refused, and then it has changed nothing, or its process has
ended or was stopped; the clock and the working directory stay as they are (`Machine.answer_cases`). So no command
interrupts a run, and every run on the host comes to its end (`Session.verify_ends_on_host`). -/

namespace PreMerge

namespace Host.Machine

variable (more : List (String × String)) (launch : Launch) (site : Site Octets)

/-- What a launch comes to. If it is refused it leaves everything as it is, and otherwise files and what was printed
may be others. -/
theorem answer_cases :
    (∃ fault, answer more launch site = (.refused fault, site) ∧ fault.kind.interrupts = false) ∨
    ∃ ending, ∃ tree : FileTree, ∃ printed, answer more launch site =
        (ending, { site with tree := { tree with here := site.tree.here }, hidden := site.hidden ++ printed }) ∧
      ∀ fault, ending ≠ .refused fault := by
  unfold answer
  dsimp only
  split
  · exact .inl ⟨.nullInPath, rfl, rfl⟩
  · split
    · next refusal _ => exact .inl ⟨placeFault refusal launch.request.place, rfl, rfl⟩
    · split
      next started world _ =>
      cases started with
      | error refusal => exact .inl ⟨refusal.fault (launch.request.argv.head?.getD ""), rfl, rfl⟩
      | ok code =>
          refine .inr ⟨_, world.tree, _, rfl, fun fault => ?_⟩
          split <;> nofun

theorem launcher_refused {why : Fault} (h : (launcher more launch site).1 = .refused why) :
    why.kind.interrupts = false := by
  obtain ⟨fault, hanswer, hfault⟩ | ⟨ending, tree, printed, hanswer, hending⟩ := answer_cases more launch site
  · rw [launcher, hanswer] at h
    cases h
    exact hfault
  · rw [launcher, hanswer] at h
    exact absurd h (hending why)

theorem launcher_keeps :
    (launcher more launch site).2.now = site.now ∧ (launcher more launch site).2.tree.here = site.tree.here := by
  obtain ⟨fault, hanswer, -⟩ | ⟨ending, tree, printed, hanswer, -⟩ := answer_cases more launch site
  · rw [launcher, hanswer]
    exact ⟨rfl, rfl⟩
  · rw [launcher, hanswer]
    exact ⟨rfl, rfl⟩

end Host.Machine

namespace Verification

variable {σ : Type} {plan : Verification σ}

/-- What a step keeps of a site, if launches keep it and scans do. -/
theorem after_keeps {α : Type} (kept : Site σ → α) {launcher : Launcher σ} {timeout : Option Binary64} {verbose : Bool}
    (hrunner : plan.runner = launcher.runner timeout verbose)
    (hlaunch : ∀ launch site, kept (launcher launch site).2 = kept site)
    (hscan : ∀ site, kept (plan.around.after site) = kept site) (spec : Spec) (site : Site σ) :
    kept (plan.after spec site) = kept site := by
  have hcall : ∀ request, kept (plan.runner request site).site = kept site := by
    intro request
    rw [hrunner, Launcher.runner]
    split
    · rfl
    · exact hlaunch _ site
  unfold after
  split
  · rfl
  · split
    · exact hcall _
    · exact hscan site

theorem finish_keeps {α : Type} (kept : Site σ → α) {specs : List Spec}
    (hstep : ∀ spec site, kept (plan.after spec site) = kept site) (site : Site σ) :
    kept (plan.finish specs site) = kept site := by
  induction specs generalizing site with
  | nil => rfl
  | cons spec rest ih =>
      rw [finish, List.foldl_cons, ← finish, ih, hstep]

/-- While the clock stands still, all times of a run are finite. -/
theorem timesFinite_of_standing (hstep : ∀ spec site, (plan.after spec site).now = site.now)
    (haround : plan.around = {}) {site : Site σ} (hnow : site.now.isFinite = true) : plan.TimesFinite site where
  step := by
    have hall : ∀ specs site, site.now.isFinite = true →
        ∀ start ∈ plan.course specs site, start.2.now.isFinite = true := by
      intro specs
      induction specs with
      | nil => nofun
      | cons spec rest ih =>
          intro site hnow
          rw [course, List.forall_mem_cons]
          exact ⟨hnow, ih _ (by rwa [hstep])⟩
    intro start hstart _
    have hstarted := hall _ site hnow start hstart
    rw [Timed, hstep, haround]
    exact ⟨Binary64.isFinite_sub_self hstarted, fun _ => Binary64.isFinite_sub_self hstarted⟩
  whole := by
    rw [finish_keeps Site.now hstep]
    exact Binary64.isFinite_sub_self hnow

end Verification

namespace Session

/-- Every run on the host whose clock shows a number of seconds comes to its end, whatever its commands are and do:
every step is recorded, and the clock and the working directory are as before. -/
theorem verify_ends_on_host (entry : Entry) (more : List (String × String)) {arguments : List String} {given : Given}
    (environment : Environment) (site : Site Host.Octets) (console : Console) {settings : Settings}
    (hread : (verifyCommand entry.program).read arguments = .ok (.run given))
    (hload : Settings.load (directory site) environment = .ok settings) (hnow : site.now.isFinite = true) :
    let session := verify entry (Host.Machine.launcher more) arguments environment site console
    let report := ((plan (Host.Machine.launcher more) given settings).run site).report
    session.fault = none ∧ session.request = none ∧ session.exitCode = report.exitCode ∧
      report.steps.map (·.spec) = Spec.standard ∧ (∀ step ∈ report.steps, step.done = true) ∧
      session.site.now = site.now ∧ session.site.tree.here = site.tree.here := by
  intro session report
  let plan := plan (Host.Machine.launcher more) given settings
  have hclock : ∀ spec before, (plan.after spec before).now = before.now :=
    Verification.after_keeps Site.now rfl (fun launch before => (Host.Machine.launcher_keeps more launch before).1)
      fun _ => rfl
  have hplace : ∀ spec before, (plan.after spec before).tree.here = before.tree.here :=
    Verification.after_keeps (·.tree.here) rfl
      (fun launch before => (Host.Machine.launcher_keeps more launch before).2) fun _ => rfl
  have hrefused : ∀ launch site why, (Host.Machine.launcher more launch site).1 = .refused why →
      why.kind.interrupts = false := fun launch site _ => Host.Machine.launcher_refused more launch site
  have htimes : plan.TimesFinite site := Verification.timesFinite_of_standing hclock rfl hnow
  have hcontained : plan.runner.Contained := Launcher.contained hrefused settings.timeout settings.verbose
  obtain ⟨hfault, -, hspecs, hdone, -⟩ := Verification.run_completes hcontained htimes
  have hrunner : plan.runner = _ := rfl
  obtain ⟨-, -, hsite⟩ := Verification.run_launches hrunner hrefused htimes
  have hsession : session = _ := verify_of_read hread (Host.Machine.launcher more) environment site console {}
  rw [hload] at hsession
  dsimp only at hsession
  rw [verification_of_completed entry (Host.Machine.launcher more) console hfault] at hsession
  rw [hsession]
  refine ⟨rfl, rfl, rfl, hspecs, hdone, ?_, ?_⟩
  · exact (congrArg Site.now hsite).trans (Verification.finish_keeps Site.now hclock site)
  · exact (congrArg (·.tree.here) hsite).trans (Verification.finish_keeps (·.tree.here) hplace site)

end Session

end PreMerge
