import PreMerge.Run.Report

/-! What can be done to a report, and what stays of it. A step is added, an outcome is recorded for one that is
there, or the run is finished. Whatever is done, a report only grows: no outcome that is recorded is lost or
replaced, and no count goes down (`grows_perform`, `grows_after`). Each step therefore gets at most one result,
and a second one is refused and changes nothing (`outcomes_recorded_once`). -/

namespace PreMerge

namespace Report

theorem failed_eq_zero_iff {report : Report} :
    report.failed = 0 ↔ ∀ step ∈ report.steps, step.result ≠ some .failed := by
  rw [failed, count, List.countP_eq_zero]
  simp

/-- The exit code of a report is 0 if no step failed, and 1 otherwise. -/
theorem exitCode_cases (report : Report) :
    report.exitCode = 0 ∧ report.failed = 0 ∧ (∀ step ∈ report.steps, step.result ≠ some .failed) ∨
      report.exitCode = 1 ∧ 0 < report.failed ∧ ∃ step ∈ report.steps, step.result = some .failed := by
  unfold exitCode success
  by_cases hnone : report.failed = 0
  · exact .inl ⟨if_pos (beq_iff_eq.mpr hnone), hnone, failed_eq_zero_iff.mp hnone⟩
  · have hfailed : ∃ step ∈ report.steps, step.result = some .failed := by
      simpa using mt failed_eq_zero_iff.mpr hnone
    exact .inr ⟨if_neg (by simpa using hnone), Nat.pos_of_ne_zero hnone, hfailed⟩

theorem exitCode_le {report other : Report} (h : report.failed ≤ other.failed) :
    report.exitCode ≤ other.exitCode := by
  unfold exitCode success
  by_cases hnone : report.failed = 0
  · rw [if_pos (beq_iff_eq.mpr hnone)]
    split <;> decide
  · have hother : other.failed ≠ 0 := by omega
    exact Int.le_of_eq (by rw [if_neg (by simpa using hnone), if_neg (by simpa using hother)])

theorem exitCode_eq_one_iff {report : Report} :
    report.exitCode = 1 ↔ ∃ step ∈ report.steps, step.result = some .failed := by
  rcases report.exitCode_cases with ⟨hcode, -, hnone⟩ | ⟨hcode, -, hsome⟩
  · constructor
    · intro hone
      rw [hcode] at hone
      cases hone
    · rintro ⟨step, hstep, hfailed⟩
      exact absurd hfailed (hnone step hstep)
  · exact iff_of_true hcode hsome

/-- What is done to a report. -/
inductive Operation
  | add (step : Step)
  | record (index : Nat) (outcome : Outcome)
  | finish (now : Binary64)

/-- The report after an operation, and the fault of one that is refused. -/
def perform (report : Report) : Operation → Report × Option Fault
  | .add step => (report.add step, none)
  | .record index outcome =>
    match report.record index outcome with
    | .ok later => (later, none)
    | .error fault => (report, some fault)
  | .finish now => (report.finish now, none)

/-- The report after operations; those that are refused are passed over. -/
def after (report : Report) (operations : List Operation) : Report :=
  operations.foldl (fun sofar operation => (sofar.perform operation).1) report

/-- The result of the step at an index, once there is one. -/
def resultAt (report : Report) (index : Nat) : Option Result :=
  report.steps[index]?.bind Step.result

/-- How many of some operations change the result of the step at an index. -/
def changes (index : Nat) (report : Report) : List Operation → Nat
  | [] => 0
  | operation :: rest =>
    (if (report.perform operation).1.resultAt index = report.resultAt index then 0 else 1) +
      changes index (report.perform operation).1 rest

/-- A report comes of another one with all that is recorded kept. -/
structure Grows (report later : Report) : Prop where
  keeps : ∀ (index : Nat) (step : Step), report.steps[index]? = some step →
    ∃ now : Step, later.steps[index]? = some now ∧ now.spec = step.spec ∧ (step.done = true → now = step)
  count : ∀ result, report.count result ≤ later.count result
  total : report.total ≤ later.total

variable {report middle later : Report} {index : Nat} {step : Step} {outcome : Outcome}

namespace Grows

theorem refl (report : Report) : report.Grows report :=
  ⟨fun _ step h => ⟨step, h, rfl, fun _ => rfl⟩, fun _ => Nat.le_refl _, Nat.le_refl _⟩

theorem trans (h : report.Grows middle) (k : middle.Grows later) : report.Grows later := by
  refine ⟨?_, fun result => Nat.le_trans (h.count result) (k.count result), Nat.le_trans h.total k.total⟩
  intro index step hstep
  obtain ⟨between, hbetween, hspec, hkept⟩ := h.keeps index step hstep
  obtain ⟨now, hnow, hspec', hkept'⟩ := k.keeps index between hbetween
  refine ⟨now, hnow, hspec'.trans hspec, ?_⟩
  intro hdone
  obtain rfl := hkept hdone
  exact hkept' hdone

/-- A result that is there stays. -/
theorem resultAt (h : report.Grows later) {result : Result} (hresult : report.resultAt index = some result) :
    later.resultAt index = some result := by
  obtain ⟨step, hstep, hsome⟩ := Option.bind_eq_some_iff.mp hresult
  obtain ⟨now, hnow, -, hkept⟩ := h.keeps index step hstep
  have hdone : step.done = true := by
    cases hrecorded : step.outcome with
    | none => simp [Step.result, hrecorded] at hsome
    | some outcome => simp [Step.done, hrecorded]
  rw [Report.resultAt, hnow, hkept hdone]
  exact hsome

end Grows

/-- A step that is added stands behind all others. -/
theorem grows_add (report : Report) (step : Step) : report.Grows (report.add step) := by
  refine ⟨?_, ?_, ?_⟩
  · intro index other hother
    obtain ⟨hlt, -⟩ := List.getElem?_eq_some_iff.mp hother
    refine ⟨other, ?_, rfl, fun _ => rfl⟩
    rw [add, List.getElem?_append_left hlt, hother]
  · intro result
    rw [count, count, add, List.countP_append]
    exact Nat.le_add_right _ _
  · rw [total, total, add, List.length_append]
    exact Nat.le_add_right _ _

theorem record_of_undone (hstep : report.steps[index]? = some step) (hresult : step.result = none)
    (outcome : Outcome) : report.record index outcome =
      .ok { report with steps := report.steps.set index { step with outcome := some outcome } } := by
  have hnone : step.outcome = none := by simpa [Step.result] using hresult
  simp only [record, hstep, Step.record, hnone]
  rfl

theorem record_of_done (hstep : report.steps[index]? = some step) {earlier : Result}
    (hresult : step.result = some earlier) (outcome : Outcome) :
    report.record index outcome = .error (.ofText .runtime
      ("Step '" ++ step.spec.name ++ "' already recorded as " ++ earlier.label)) := by
  obtain ⟨recorded, hrecorded, rfl⟩ := Option.map_eq_some_iff.mp hresult
  simp only [record, hstep, Step.record, hrecorded]
  rfl

/-- What a successful record leaves: nothing, if no step is there, or one step with its outcome. -/
theorem record_cases (h : report.record index outcome = .ok later) :
    later = report ∨ ∃ step, report.steps[index]? = some step ∧ step.result = none ∧
      later = { report with steps := report.steps.set index { step with outcome := some outcome } } := by
  cases hstep : report.steps[index]? with
  | none =>
      simp only [record, hstep, Except.ok.injEq] at h
      exact .inl h.symm
  | some step =>
      cases hresult : step.result with
      | none =>
          rw [record_of_undone hstep hresult, Except.ok.injEq] at h
          exact .inr ⟨step, rfl, hresult, h.symm⟩
      | some earlier =>
          rw [record_of_done hstep hresult] at h
          cases h

theorem grows_record (hstep : report.steps[index]? = some step) (hresult : step.result = none)
    (outcome : Outcome) :
    report.Grows { report with steps := report.steps.set index { step with outcome := some outcome } } := by
  obtain ⟨hlt, hget⟩ := List.getElem?_eq_some_iff.mp hstep
  refine ⟨?_, ?_, ?_⟩
  · intro other kept hkept
    by_cases hsame : index = other
    · subst hsame
      rw [hstep] at hkept
      cases hkept
      refine ⟨_, List.getElem?_set_self hlt, rfl, ?_⟩
      intro hdone
      simp [Step.done, Step.result] at hdone hresult
      simp [hresult] at hdone
    · exact ⟨kept, by rw [List.getElem?_set_ne hsame, hkept], rfl, fun _ => rfl⟩
  · intro result
    rw [count, count, List.countP_set hlt, hget, hresult]
    simp
  · exact Nat.le_of_eq (List.length_set ..).symm

/-- Whatever is done to a report, it grows. -/
theorem grows_perform (report : Report) (operation : Operation) : report.Grows (report.perform operation).1 := by
  cases operation with
  | add step => exact grows_add report step
  | record index outcome =>
      unfold perform
      dsimp only
      split
      · next later hrecord =>
          rcases record_cases hrecord with rfl | ⟨step, hstep, hresult, rfl⟩
          · exact Grows.refl later
          · exact grows_record hstep hresult outcome
      · exact Grows.refl report
  | finish now => exact ⟨(Grows.refl report).keeps, fun _ => Nat.le_refl _, Nat.le_refl _⟩

theorem grows_after (report : Report) (operations : List Operation) : report.Grows (report.after operations) := by
  induction operations generalizing report with
  | nil => exact Grows.refl report
  | cons operation rest ih => exact (grows_perform report operation).trans (ih _)

/-- A result that is there is not changed any more. -/
theorem changes_eq_zero {result : Result} (hresult : report.resultAt index = some result)
    (operations : List Operation) : report.changes index operations = 0 := by
  induction operations generalizing report with
  | nil => rfl
  | cons operation rest ih =>
      have hlater := (grows_perform report operation).resultAt hresult
      rw [changes, ih hlater, hlater, hresult, if_pos rfl]

theorem changes_le_one (report : Report) (index : Nat) (operations : List Operation) :
    report.changes index operations ≤ 1 := by
  induction operations generalizing report with
  | nil => exact Nat.zero_le 1
  | cons operation rest ih =>
      rw [changes]
      split
      · rw [Nat.zero_add]
        exact ih _
      · next hchanged =>
          cases hlater : (report.perform operation).1.resultAt index with
          | some result => exact Nat.le_of_eq (by rw [changes_eq_zero hlater])
          | none =>
              -- A result that is gone was there before, and those do not go.
              cases hbefore : report.resultAt index with
              | none => exact absurd (hlater.trans hbefore.symm) hchanged
              | some result =>
                  rw [(grows_perform report operation).resultAt hbefore] at hlater
                  cases hlater

/-- Whatever is done to a report, each step gets at most one result and keeps it, with its time and its reason. To
record another one is refused, and leaves the report as it is. The counts tell the steps that are done, they never
go down, and the exit code is 1 from the first failed step on. -/
theorem outcomes_recorded_once (report : Report) (operations more : List Operation) :
    let before := report.after operations
    let later := before.after more
    (∀ index, report.changes index operations ≤ 1) ∧
    (∀ (index : Nat) (step : Step), before.steps[index]? = some step →
      ∃ now : Step, later.steps[index]? = some now ∧ now.spec = step.spec ∧ (step.done = true → now = step)) ∧
    (∀ (index : Nat) (step : Step) (outcome : Outcome), before.steps[index]? = some step →
      (step.result = none → before.perform (.record index outcome) =
        ({ before with steps := before.steps.set index { step with outcome := some outcome } }, none)) ∧
      ∀ earlier, step.result = some earlier → before.perform (.record index outcome) =
        (before, some (.ofText .runtime
          ("Step '" ++ step.spec.name ++ "' already recorded as " ++ earlier.label)))) ∧
    before.passed + before.failed + before.skipped = before.steps.countP Step.done ∧
    before.passed + before.failed + before.skipped ≤ before.total ∧
    (before.passed ≤ later.passed ∧ before.failed ≤ later.failed ∧ before.skipped ≤ later.skipped ∧
      before.total ≤ later.total) ∧
    (before.exitCode = 1 ↔ ∃ step ∈ before.steps, step.result = some .failed) ∧
    (before.exitCode = 1 → later.exitCode = 1) := by
  intro before later
  have hgrows : before.Grows later := grows_after before more
  refine ⟨fun index => changes_le_one report index operations, hgrows.keeps, ?_,
    passed_add_failed_add_skipped before, ?_, ⟨hgrows.count _, hgrows.count _, hgrows.count _, hgrows.total⟩,
    exitCode_eq_one_iff, ?_⟩
  · intro index step outcome hstep
    constructor
    · intro hnone
      simp only [perform, record_of_undone hstep hnone]
    · intro earlier hearlier
      simp only [perform, record_of_done hstep hearlier]
  · rw [passed_add_failed_add_skipped]
    exact List.countP_le_length
  · intro hone
    have hle : before.exitCode ≤ later.exitCode := exitCode_le (hgrows.count .failed)
    rcases later.exitCode_cases with ⟨hzero, -, -⟩ | ⟨hcode, -, -⟩
    · omega
    · exact hcode

/-- A step that failed is to pass after all. -/
theorem outcomes_recorded_once_of_second_record :
    let lint : Spec := ⟨2, "lint", "ESLint", .command ["lint"], false⟩
    let before : Report := ({ started := .zero } : Report).after
      [.add ⟨lint, none⟩, .record 0 ⟨.failed, .zero, "lint exited with code 1"⟩, .finish .zero]
    before.perform (.record 0 ⟨.passed, .zero, ""⟩) =
      (before, some (.ofText .runtime "Step 'lint' already recorded as failed")) ∧
    (before.after [.record 0 ⟨.passed, .zero, ""⟩, .add ⟨lint, none⟩]).exitCode = 1 := by
  intro lint before
  obtain ⟨-, -, hrecord, -, -, -, -, hcode⟩ := outcomes_recorded_once { started := .zero }
    [.add ⟨lint, none⟩, .record 0 ⟨.failed, .zero, "lint exited with code 1"⟩, .finish .zero]
    [.record 0 ⟨.passed, .zero, ""⟩, .add ⟨lint, none⟩]
  exact ⟨(hrecord 0 ⟨lint, some ⟨.failed, .zero, "lint exited with code 1"⟩⟩ _ rfl).2 .failed rfl, hcode rfl⟩

end Report

end PreMerge
