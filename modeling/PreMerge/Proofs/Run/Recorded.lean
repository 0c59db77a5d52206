import PreMerge.Proofs.Run.ScanStep

/-! What a step records. A call that fails its step spares the run (`Spares`), and a run of such calls is not
broken off while its times are finite (`course_faults`). Whenever a stage is not broken off, its step records
the verdict on its work, or that it was left out (`stage_records`), so the steps of a run tell its course
(`steps_recorded`). -/

namespace PreMerge

theorem Performance.exists_verdict {ending : Performance.Ending}
    (h : ∀ fault, ending = .failed fault → fault.kind.interrupts = false) :
    ∃ result reason, verdict ending = .ok (result, reason) := by
  cases ending with
  | done => exact ⟨_, _, rfl⟩
  | nothingToScan => exact ⟨_, _, rfl⟩
  | failed fault =>
      have hspared := h fault rfl
      rw [verdict]
      split
      · next hfamily =>
        rw [Fault.Kind.interrupts, hfamily] at hspared
        cases hspared
      · exact ⟨_, _, rfl⟩
      · exact ⟨_, _, rfl⟩
      · exact ⟨_, _, rfl⟩

theorem Performance.ofExcept_eq_failed {result : Except Fault Unit} {fault : Fault} :
    Ending.ofExcept result = .failed fault ↔ result = .error fault ∧ fault.kind.family ≠ .nothingToScan := by
  cases result with
  | ok => simp [Ending.ofExcept]
  | error other =>
      rw [Ending.ofExcept]
      split
      · next hnothing =>
        refine iff_of_false nofun ?_
        rintro ⟨⟨⟩, hsome⟩
        exact hsome hnothing
      · next hsome =>
        constructor
        · rintro ⟨⟩
          exact ⟨rfl, hsome⟩
        · rintro ⟨⟨⟩, -⟩
          rfl

theorem Performance.ofExcept_eq_nothingToScan {result : Except Fault Unit} :
    Ending.ofExcept result = .nothingToScan ↔
      ∃ fault, result = .error fault ∧ fault.kind.family = .nothingToScan := by
  cases result with
  | ok => simp [Ending.ofExcept]
  | error fault => simp [Ending.ofExcept]

namespace Verification

variable {σ : Type} {plan : Verification σ} {spec : Spec} {site : Site σ}

theorem work_command {argv : List String} (htask : spec.task = .command argv) (site : Site σ) :
    (plan.work spec site).ending = .ofExcept (plan.runner ⟨argv, plan.root⟩ site).result := by
  rw [work, htask, Performance.ofTask]

theorem request?_of_command (hrun : plan.omits spec = false) {argv : List String}
    (htask : spec.task = .command argv) : plan.request? spec = some ⟨argv, plan.root⟩ := by
  rw [request?, hrun, if_neg Bool.false_ne_true, htask]

theorem exists_command_of_request? {request : Request} (h : plan.request? spec = some request) :
    plan.omits spec = false ∧ ∃ argv, spec.task = .command argv ∧ request = ⟨argv, plan.root⟩ := by
  unfold request? at h
  split at h
  · cases h
  · next hrun =>
      refine ⟨by simpa using hrun, ?_⟩
      split at h
      · next argv htask =>
          cases h
          exact ⟨argv, htask, rfl⟩
      · cases h

/-- The call that a step makes of the runner, if it makes one, at most fails the step. -/
def Spares (plan : Verification σ) (spec : Spec) (site : Site σ) : Prop :=
  ∀ request, plan.request? spec = some request → ∀ fault,
    (plan.runner request site).result = .error fault → fault.kind.interrupts = false

theorem work_spared (hspares : plan.Spares spec site) (hrun : plan.omits spec = false) {fault : Fault}
    (h : (plan.work spec site).ending = .failed fault) : fault.kind.interrupts = false := by
  cases htask : spec.task with
  | scan =>
      rw [work_scan htask] at h
      exact Performance.scan_contained (fun _ _ => stampFault?_contained) h
  | command argv =>
      rw [work_command htask] at h
      exact hspares _ (request?_of_command hrun htask) fault (Performance.ofExcept_eq_failed.mp h).1

theorem spares_of_contained (h : plan.runner.Contained) (spec : Spec) (site : Site σ) : plan.Spares spec site :=
  fun request _ => h request site

/-- Every call that steps make of the runner comes to a launch. -/
def Launches (plan : Verification σ) (specs : List Spec) (site : Site σ) : Prop :=
  ∀ start ∈ plan.course specs site, ∀ request, plan.request? start.1 = some request →
    (plan.runner request start.2).launched = true

/-- What a step records that starts from a site. -/
inductive Records (plan : Verification σ) (spec : Spec) (before : Site σ) : Outcome → Prop
  | omitted (homits : plan.omits spec = true) : Records plan spec before ⟨.skipped, .zero, "via --skip-build"⟩
  | judged {result : Result} {reason : String} (hrun : plan.omits spec = false)
      (hverdict : Performance.verdict (plan.work spec before).ending = .ok (result, reason)) :
      Records plan spec before ⟨result, (plan.after spec before).now - before.now, reason⟩

/-- A step of a report is the one that starts from a site. -/
def Recorded (plan : Verification σ) (start : Spec × Site σ) (step : Step) : Prop :=
  ∃ outcome, step = ⟨start.1, some outcome⟩ ∧ Records plan start.1 start.2 outcome

/-- The verdict on the work of a step that is not left out tells what is recorded of it. -/
theorem Recorded.eq_of_verdict {step : Step} (h : plan.Recorded (spec, site) step) (hrun : plan.omits spec = false)
    {result : Result} {reason : String}
    (hverdict : Performance.verdict (plan.work spec site).ending = .ok (result, reason)) :
    step = ⟨spec, some ⟨result, (plan.after spec site).now - site.now, reason⟩⟩ := by
  obtain ⟨outcome, rfl, hrecords⟩ := h
  cases hrecords with
  | omitted homits =>
      rw [hrun] at homits
      cases homits
  | judged _ hother =>
      rw [hverdict] at hother
      cases hother
      rfl

/-- What a step shows between its header and its outcome. -/
def shown (plan : Verification σ) (spec : Spec) (site : Site σ) : List Print :=
  if plan.omits spec then [] else (plan.work spec site).prints

theorem stage_fault_none (hspares : plan.Spares spec site) (hbefore : site.now.isFinite = true)
    (hafter : (plan.after spec site).now.isFinite = true)
    (helapsed : plan.omits spec = false → ((plan.after spec site).now - site.now).isFinite = true) :
    (plan.stage spec site).fault = none := by
  cases hrun : plan.omits spec with
  | true =>
      rw [plan.stage_of_omits hrun]
      exact plan.conclude_fault rfl hbefore
  | false =>
      obtain ⟨result, reason, hverdict⟩ := Performance.exists_verdict fun fault => work_spared hspares hrun
      have hclock : (plan.work spec site).site.now.isFinite = true := by rwa [plan.work_site hrun]
      rw [plan.stage_of_verdict hrun (Performance.surpriseFault?_eq_none hclock) hverdict]
      exact plan.conclude_fault (helapsed hrun) hclock

/-- A stage that is not broken off records its step, and shows it between its header and the lines about its
outcome. -/
theorem stage_records (h : (plan.stage spec site).fault = none) :
    ∃ outcome, Records plan spec site outcome ∧ (plan.stage spec site).step = some ⟨spec, some outcome⟩ ∧
      (plan.stage spec site).prints = Announcement.header plan.total spec ++ plan.shown spec site ++
        (Announcement.ofStep ⟨spec, some outcome⟩).prints := by
  cases hrun : plan.omits spec with
  | true =>
      rw [plan.stage_of_omits hrun, shown, if_pos hrun]
      exact ⟨_, .omitted hrun, rfl, rfl⟩
  | false =>
      have hsite := plan.work_site hrun site
      rw [shown, hrun, if_neg Bool.false_ne_true]
      -- A verdict that interrupts, or a record that cannot be written, would have broken the stage off.
      rw [stage, if_neg (by simp [hrun])] at h ⊢
      dsimp only at h ⊢
      rw [← work] at h ⊢
      split at h
      · cases h
      · cases h
      · next result reason hverdict hsurprise =>
          rw [hsite]
          exact ⟨_, .judged hrun hverdict, rfl, rfl⟩

/-- A run whose calls fail steps at most is not broken off while its times are finite. -/
theorem course_faults {specs : List Spec}
    (hspares : ∀ start ∈ plan.course specs site, plan.Spares start.1 start.2) (hsite : site.now.isFinite = true)
    (htimes : ∀ start ∈ plan.course specs site, plan.omits start.1 = false → plan.Timed start.1 start.2) :
    ∀ start ∈ plan.course specs site, (plan.stage start.1 start.2).fault = none := by
  intro start hstart
  obtain ⟨hbefore, hafter⟩ := plan.clocks_isFinite hsite htimes start hstart
  exact stage_fault_none (hspares start hstart) hbefore hafter fun hrun => (htimes start hstart hrun).1

/-- The steps of a run that is not broken off are recorded, each from the site on which it starts. -/
theorem steps_recorded {specs : List Spec}
    (hfaults : ∀ start ∈ plan.course specs site, (plan.stage start.1 start.2).fault = none) :
    List.Forall₂ plan.Recorded (plan.course specs site)
      (((plan.course specs site).map fun start => plan.stage start.1 start.2).filterMap (·.step)) := by
  induction specs generalizing site with
  | nil => exact .nil
  | cons spec rest ih =>
      rw [course, List.forall_mem_cons] at hfaults
      obtain ⟨outcome, hrecords, hstep, -⟩ := stage_records hfaults.1
      rw [course, List.map_cons, List.filterMap_cons_some hstep]
      exact .cons ⟨outcome, rfl, hrecords⟩ (ih hfaults.2)

theorem steps_of_recorded {starts : List (Spec × Site σ)} {steps : List Step}
    (h : List.Forall₂ plan.Recorded starts steps) :
    steps.map (·.spec) = starts.map Prod.fst ∧ ∀ step ∈ steps, step.done = true := by
  induction h with
  | nil => exact ⟨rfl, nofun⟩
  | cons hfirst _ ih =>
      obtain ⟨outcome, rfl, -⟩ := hfirst
      rw [List.map_cons, List.map_cons, ih.1, List.forall_mem_cons]
      exact ⟨rfl, rfl, ih.2⟩

end Verification

end PreMerge
