import PreMerge.Proofs.Run.Course
import PreMerge.Proofs.Scan.Reference
import PreMerge.Proofs.Selection.Collected

/-! The step that scans. It walks the source files below the root and holds the rules against the first of
them (`scan_cases`); the recorded outcome and the printed violations follow from that walk and from the
files alone (`scan_stage_outcome`). -/

namespace PreMerge

theorem Path.hasNull_ofString_of_names {file : String}
    (hnames : ∀ name ∈ Selector.namesOf file, FileTree.isName name = true) : (ofString file).hasNull = false := by
  rw [hasNull, List.any_eq_false]
  intro part hpart
  obtain ⟨piece, hpiece, rfl⟩ := List.mem_map.mp hpart
  have hname := hnames _ (List.mem_map_of_mem (List.mem_filter.mp hpiece).1)
  simpa using FileTree.null_not_mem hname

/-- The walk over the source files below a root. -/
def sourceWalk (root : Path) (tree : FileTree) : List String × Option Fault :=
  ({ root } : Selector).trace tree .fresh

/-- What the rules find in the first files of that walk. -/
def sourceBreaches (root : Path) (tree : FileTree) : List Violation :=
  ((sourceWalk root tree).1.take 500).flatMap (Scan.breaches Rule.standard tree (some root))

/-- A root with a single directory below it, which holds files only: these are all that is walked over. -/
theorem sourceWalk_of_directory {root : Path} {tree : FileTree} {files : List String} (area : String)
    (hroot : ({ root } : Selector).visit tree [] = .ok ⟨[], [area]⟩)
    (harea : ({ root } : Selector).visit tree [area] = .ok ⟨files, []⟩) : sourceWalk root tree = (files, none) := by
  have hlast : ({ root } : Selector).trace tree ⟨files, []⟩ = (files, none) := by rw [Selector.trace]
  have hinside : ({ root } : Selector).trace tree ⟨[], [[area]]⟩ = (files, none) := by
    simp only [Selector.trace_of_ok harea, List.map_nil, List.nil_append, hlast]
  simp only [sourceWalk, Walk.fresh, Selector.trace_of_ok hroot, List.map_cons, List.map_nil, List.nil_append,
    List.append_nil, hinside]

/-- A walk that ends well or goes beyond the limit does not stop before it. -/
theorem sourceWalk_not_stopped {root : Path} {tree : FileTree}
    (hcut : (sourceWalk root tree).2 = none ∨ 500 < (sourceWalk root tree).1.length) {fault : Fault}
    (hstop : (sourceWalk root tree).2 = some fault) : ¬ (sourceWalk root tree).1.length ≤ 500 := by
  rcases hcut with hend | hmore
  · rw [hend] at hstop
    cases hstop
  · exact Nat.not_le.mpr hmore

namespace Performance

variable {σ : Type} {root : Path} {around : Surroundings σ} {site : Site σ} {stamp : Binary64 → Option Fault}

theorem selection_of_named {naming : Encoding} (h : naming.fault? root.text = none) (tree : FileTree)
    (stamp : Option Fault) : selection root naming tree stamp = ({ root } : Selector).collect tree stamp := by
  rw [selection, h]

theorem selection_contained {naming : Encoding} {tree : FileTree} {reason : Option Fault}
    (hreason : ∀ why, reason = some why → why.kind.interrupts = false) {fault : Fault}
    (h : selection root naming tree reason = .error fault) : fault.kind.interrupts = false := by
  unfold selection at h
  split at h
  · next other hother =>
    cases h
    rw [Encoding.kind_of_fault? hother]
    rfl
  · rcases Selector.collect_stamp { root } tree reason with hsame | ⟨why, hwhy, herror⟩
    · rw [hsame] at h
      rcases Selector.collect_error h with hkind | hkind
      · rw [hkind]
        rfl
      · rw [hkind]
        rfl
    · cases h.symm.trans herror
      exact hreason _ hwhy

/-- Nothing that a scan meets interrupts a run, unless that is why no record can be written. -/
theorem scan_contained (hstamp : ∀ now why, stamp now = some why → why.kind.interrupts = false) {fault : Fault}
    (h : (scan root around site stamp).ending = .failed fault) : fault.kind.interrupts = false := by
  unfold scan at h
  dsimp only at h
  split at h
  · next other hselected =>
    cases h
    exact selection_contained (hstamp site.now) hselected
  · cases h
  · next files log hne hselected =>
    split at h
    · next other hstop =>
      cases h
      rcases Option.or_eq_some_iff.mp hstop with hscan | ⟨-, hrecord⟩
      · exact Scan.scan_contained (hstamp (around.selected site)) hscan
      · exact hstamp _ _ hrecord
    · dsimp only [scanEnding] at h
      split at h
      · cases h
      · cases h
        rfl

/-- There is nothing to scan if the selection is empty, and only then. -/
theorem scan_nothing : (scan root around site stamp).ending = .nothingToScan ↔
    ∃ log, selection root around.naming site.tree (stamp site.now) = .ok ([], log) := by
  unfold scan
  dsimp only
  split
  · next fault hselected => simp [hselected]
  · next log hselected => simp [hselected]
  · next files log hne hselected =>
      have hno : ¬ ∃ log, selection root around.naming site.tree (stamp site.now) = .ok ([], log) := by
        rintro ⟨log', hempty⟩
        rw [hselected] at hempty
        cases hempty
        exact hne rfl
      refine iff_of_false ?_ hno
      split
      · nofun
      · dsimp only [scanEnding]
        split <;> nofun

section Recorded

variable (hselected : stamp (around.selected site) = none) (hscanned : stamp (around.scanned site) = none)
include hselected hscanned

/-- What a scan prints and how it ends, if nothing stops it: what the rules find in the selected files. -/
theorem scan_of_selection {files : List String} {log : List Record} (hroot : root.hasNull = false)
    (hselection : selection root around.naming site.tree (stamp site.now) = .ok (files, log)) (hne : files ≠ [])
    (hfiles : ∀ file ∈ files, ¬ Scan.Barred (some root) around.naming file)
    (htakes : Scan.Takes around.output Rule.standard site.tree (some root) files) {found : List Violation}
    (hfound : found = files.flatMap (Scan.breaches Rule.standard site.tree (some root))) :
    (scan root around site stamp).prints = found.map (.raw ·.spelled) ∧
      (scan root around site stamp).ending = if found = [] then .done
        else .failed (.ofText .stepFailed (toString found.length ++ " anti-pattern violation(s) found")) := by
  have hbase : ∀ directory, some root = some directory → directory.hasNull = false := by
    rintro directory ⟨⟩
    exact hroot
  have hstamp : (around.conditions site stamp).stamp = none := hselected
  obtain ⟨findings, hscan, htally⟩ := Scan.exists_tally hbase hstamp hfiles htakes
  have hviolations : findings.violations = found := by rw [htally.violations, hfound]
  have hshown : findings.shown.map Print.raw = found.map (.raw ·.spelled) := by
    rw [htally.shown, hviolations, List.map_map]
    rfl
  obtain ⟨file, rest, rfl⟩ := List.exists_cons_of_ne_nil hne
  unfold scan
  dsimp only
  rw [hselection]
  dsimp only
  rw [hscan, hscanned, Option.none_or]
  dsimp only
  rw [hshown, scanEnding, Findings.passed, hviolations]
  simp only [List.isEmpty_iff, true_and]

/-- A scan fails with what the system refused, finds nothing to scan, or tells what the rules find. -/
theorem scan_cases (hnow : stamp site.now = none) (hroot : root.hasNull = false) (hnamed : site.tree.WellNamed)
    (hencoded : around.naming.fault? root.text = none)
    (hfiles : ∀ file ∈ (sourceWalk root site.tree).1.take 500, Scan.isSkipped file = false →
      ∀ c ∈ (Scan.placeOf (some root) file).text.toList, around.naming.lacks c = false)
    (htakes : Scan.Takes around.output Rule.standard site.tree (some root) ((sourceWalk root site.tree).1.take 500)) :
    (∃ fault, (sourceWalk root site.tree).2 = some fault ∧ (sourceWalk root site.tree).1.length ≤ 500 ∧
      fault.kind = .system ∧ (scan root around site stamp).ending = .failed fault ∧
      (scan root around site stamp).prints = []) ∨
    ((sourceWalk root site.tree).2 = none ∨ 500 < (sourceWalk root site.tree).1.length) ∧
      (((sourceWalk root site.tree).1 = [] ∧ (scan root around site stamp).ending = .nothingToScan ∧
        (scan root around site stamp).prints = []) ∨
      ((sourceWalk root site.tree).1 ≠ [] ∧
        (scan root around site stamp).prints = (sourceBreaches root site.tree).map (.raw ·.spelled) ∧
        (scan root around site stamp).ending = if sourceBreaches root site.tree = [] then .done
          else .failed (.ofText .stepFailed
            (toString (sourceBreaches root site.tree).length ++ " anti-pattern violation(s) found")))) := by
  have hlimit : ({ root } : Selector).countable = .ok 500 := rfl
  have hselection : selection root around.naming site.tree (stamp site.now) =
      ({ root } : Selector).collect site.tree := by
    rw [selection_of_named hencoded, hnow]
  rcases Selector.collect_cases hlimit site.tree with ⟨fault, hstop, hfew, hcollect⟩ | ⟨hcut, log, hcollect⟩
  · refine .inl ⟨fault, hstop, hfew, Selector.trace_fault_of_root hnamed hroot hstop, ?_, ?_⟩
    · rw [scan, hselection, hcollect]
    · rw [scan, hselection, hcollect]
  · refine .inr ⟨hcut, ?_⟩
    by_cases hnone : (sourceWalk root site.tree).1 = []
    · refine .inl ⟨hnone, ?_, ?_⟩
      · exact scan_nothing.mpr ⟨log, by rw [hselection, hcollect, ← sourceWalk, hnone, List.take_nil]⟩
      · rw [scan, hselection, hcollect, ← sourceWalk, hnone, List.take_nil]
    · have hopen : ∀ file ∈ (sourceWalk root site.tree).1.take 500,
          ¬ Scan.Barred (some root) around.naming file := by
        rintro file hfile ⟨hskip, hnull | ⟨c, hc, hlacks⟩⟩
        · have hnames := Selector.trace_names hnamed (List.mem_of_mem_take hfile)
          have hclear := Path.hasNull_ofString_of_names hnames
          rw [Path.hasNull_ofString_iff.mpr hnull] at hclear
          cases hclear
        · rw [hfiles file hfile hskip c hc] at hlacks
          cases hlacks
      have hsome : (sourceWalk root site.tree).1.take 500 ≠ [] := by
        simpa [List.take_eq_nil_iff] using hnone
      exact .inr ⟨hnone, scan_of_selection hselected hscanned hroot (hselection.trans hcollect) hsome hopen htakes rfl⟩

end Recorded

end Performance

namespace Verification

variable {σ : Type} {plan : Verification σ} {spec : Spec} {site : Site σ}

theorem work_scan (htask : spec.task = .scan) (site : Site σ) :
    plan.work spec site = Performance.scan plan.root plan.around site (stampFault? plan.verbose .debug) := by
  rw [work, htask, Performance.ofTask]

/-- While the times of a step that scans are finite, all its records can be written. -/
theorem Timed.stamps (h : plan.Timed spec site) (htask : spec.task = .scan) :
    stampFault? plan.verbose .debug site.now = none ∧
      stampFault? plan.verbose .debug (plan.around.selected site) = none ∧
      stampFault? plan.verbose .debug (plan.around.scanned site) = none := by
  obtain ⟨-, hnow⟩ := Binary64.isFinite_of_isFinite_sub h.1
  obtain ⟨hscanned, hselected⟩ := Binary64.isFinite_of_isFinite_sub (h.2 htask)
  exact ⟨stampFault?_eq_none hnow .., stampFault?_eq_none hselected .., stampFault?_eq_none hscanned ..⟩

/-- What a step shows and records that scans: what the scan prints, and the verdict on it. -/
theorem stage_of_scan (hrun : plan.omits spec = false) {result : Result} {reason : String}
    (hexpected : Performance.isUnexpected (plan.work spec site).ending = false)
    (hverdict : Performance.verdict (plan.work spec site).ending = .ok (result, reason)) :
    ∃ elapsed, (plan.stage spec site).step = some ⟨spec, some ⟨result, elapsed, reason⟩⟩ ∧
      (plan.stage spec site).prints = Announcement.header plan.total spec ++ (plan.work spec site).prints ++
        (Announcement.ofStep ⟨spec, some ⟨result, elapsed, reason⟩⟩).prints := by
  have hsurprise : (plan.work spec site).surpriseFault? = none := by
    rw [Performance.surpriseFault?, hexpected, if_neg Bool.false_ne_true]
  rw [plan.stage_of_verdict hrun hsurprise hverdict]
  exact ⟨_, rfl, rfl⟩

/-- What becomes of a step that scans, as long as its times are finite, its files can be asked for and the output takes
what is echoed. Unless a directory that cannot be listed comes before the walk goes beyond 500 files, it is skipped
without any file, and otherwise it fails if and only if the rules find something in the first 500 files; exactly what
they find is echoed, between the header and the lines about the outcome. -/
theorem scan_stage_outcome (htask : spec.task = .scan) (hrun : plan.omits spec = false) (htimes : plan.Timed spec site)
    (hroot : plan.root.hasNull = false) (hnamed : site.tree.WellNamed)
    (hencoded : ∀ c ∈ plan.root.text.toList, plan.around.naming.lacks c = false)
    (hfiles : ∀ file ∈ (sourceWalk plan.root site.tree).1.take 500, Scan.isSkipped file = false →
      ∀ c ∈ (Scan.placeOf (some plan.root) file).text.toList, plan.around.naming.lacks c = false)
    (htakes : Scan.Takes plan.around.output Rule.standard site.tree (some plan.root)
      ((sourceWalk plan.root site.tree).1.take 500)) :
    ∃ outcome echoed, (plan.stage spec site).step = some ⟨spec, some outcome⟩ ∧
      (plan.stage spec site).prints = Announcement.header plan.total spec ++
        echoed.map (.raw ·.spelled) ++ (Announcement.ofStep ⟨spec, some outcome⟩).prints ∧
      (∀ fault, (sourceWalk plan.root site.tree).2 = some fault →
        (sourceWalk plan.root site.tree).1.length ≤ 500 →
        outcome.result = .failed ∧ outcome.reason = "I/O error: " ++ fault.message ∧ echoed = []) ∧
      ((sourceWalk plan.root site.tree).2 = none ∨ 500 < (sourceWalk plan.root site.tree).1.length →
        ((sourceWalk plan.root site.tree).1 = [] → outcome.result = .skipped ∧ echoed = []) ∧
        ((sourceWalk plan.root site.tree).1 ≠ [] →
          echoed = sourceBreaches plan.root site.tree ∧
          (outcome.result = .passed ↔ echoed.length = 0) ∧
          (outcome.result = .failed ↔ 0 < echoed.length) ∧
          (0 < echoed.length →
            outcome.reason = toString echoed.length ++ " anti-pattern violation(s) found"))) := by
  obtain ⟨hnow, hselected, hscanned⟩ := htimes.stamps htask
  have hwork : plan.work spec site = _ := work_scan htask site
  rcases Performance.scan_cases hselected hscanned hnow hroot hnamed (Encoding.fault?_eq_none_iff.mpr hencoded) hfiles
      htakes with
    ⟨fault, hstop, hfew, hsystem, hending, hprints⟩ |
    ⟨hcut, ⟨hnone, hending, hprints⟩ | ⟨hsome, hprints, hending⟩⟩
  · rw [← hwork] at hending hprints
    have hexpected : Performance.isUnexpected (plan.work spec site).ending = false := by
      rw [hending, Performance.isUnexpected, hsystem]
      rfl
    have hverdict : Performance.verdict (plan.work spec site).ending =
        .ok (.failed, "I/O error: " ++ fault.message) := by
      rw [hending, Performance.verdict, hsystem]
      rfl
    obtain ⟨elapsed, hstep, hshown⟩ := stage_of_scan hrun hexpected hverdict
    refine ⟨_, [], hstep, by rw [hshown, hprints]; rfl, ?_, ?_⟩
    · intro other hother _
      rw [hstop] at hother
      cases hother
      exact ⟨rfl, rfl, rfl⟩
    · exact fun hcut => absurd hfew (sourceWalk_not_stopped hcut hstop)
  · rw [← hwork] at hending hprints
    obtain ⟨elapsed, hstep, hshown⟩ := stage_of_scan hrun (by rw [hending]; rfl) (by rw [hending]; rfl)
    refine ⟨_, [], hstep, by rw [hshown, hprints]; rfl, ?_, ?_⟩
    · exact fun fault hstop hfew => absurd hfew (sourceWalk_not_stopped hcut hstop)
    · exact fun _ => ⟨fun _ => ⟨rfl, rfl⟩, fun hsome => absurd hnone hsome⟩
  · rw [← hwork] at hending hprints
    by_cases hfound : sourceBreaches plan.root site.tree = []
    · rw [if_pos hfound] at hending
      obtain ⟨elapsed, hstep, hshown⟩ := stage_of_scan hrun (by rw [hending]; rfl) (by rw [hending]; rfl)
      refine ⟨_, sourceBreaches plan.root site.tree, hstep, by rw [hshown, hprints], ?_, ?_⟩
      · exact fun fault hstop hfew => absurd hfew (sourceWalk_not_stopped hcut hstop)
      · refine fun _ => ⟨fun hnone => absurd hnone hsome, fun _ => ⟨rfl, ?_, ?_, ?_⟩⟩
        · simp [hfound]
        · simp [hfound]
        · simp [hfound]
    · rw [if_neg hfound] at hending
      obtain ⟨elapsed, hstep, hshown⟩ := stage_of_scan hrun (by rw [hending]; rfl) (by rw [hending]; rfl)
      have hpos := List.length_pos_iff.mpr hfound
      refine ⟨_, sourceBreaches plan.root site.tree, hstep, by rw [hshown, hprints], ?_, ?_⟩
      · exact fun fault hstop hfew => absurd hfew (sourceWalk_not_stopped hcut hstop)
      · refine fun _ => ⟨fun hnone => absurd hnone hsome, fun _ => ⟨rfl, ?_, ?_, ?_⟩⟩
        · simp [hfound]
        · simp [hpos]
        · exact fun _ => rfl

/-- A file breaks a rule, and a directory beside it is not entered. -/
theorem scan_stage_outcome_of_cast :
    let content : List UInt8 := "x as any".toList.map fun c => c.toNat.toUInt8
    let dist : Node := .directory [("b.ts", .ofBytes content)]
    let apps : Node := .directory [("dist", dist), ("a.ts", .ofBytes content)]
    let site : Site Unit := ⟨⟨.directory [("apps", apps)], [], Path.isAmong []⟩, .zero, ()⟩
    let plan : Verification Unit :=
      { root := .ofString ".", runner := fun _ site => { result := .ok (), site } }
    let spec : Spec := ⟨4, "anti-patterns", "Anti-pattern Scan", .scan, false⟩
    ∃ outcome, (plan.stage spec site).step = some ⟨spec, some outcome⟩ ∧ outcome.result = .failed ∧
      outcome.reason = "1 anti-pattern violation(s) found" ∧
      (plan.stage spec site).prints = Announcement.header 7 spec ++
        [.raw "1:x as any\n  BLOCKED: 'as any' in apps/a.ts\n"] ++
        (Announcement.ofStep ⟨spec, some outcome⟩).prints := by
  intro content dist apps site plan spec
  have hwalk : sourceWalk plan.root site.tree = (["apps/a.ts"], none) :=
    sourceWalk_of_directory "apps" (by decide +kernel) (by decide +kernel)
  have htask : spec.task = .scan := rfl
  have hrun : plan.omits spec = false := rfl
  have htimes : plan.Timed spec site := by decide +kernel
  obtain ⟨outcome, echoed, hstep, hprints, -, hscanned⟩ :=
    scan_stage_outcome htask hrun htimes (by decide +kernel) (by decide +kernel) (fun _ _ => rfl)
      (fun _ _ _ _ _ => rfl) fun _ _ _ _ _ _ => rfl
  rw [hwalk] at hscanned
  obtain ⟨rfl, -, hfailed, hreason⟩ := (hscanned (.inl rfl)).2 (by simp)
  have hfound : sourceBreaches plan.root site.tree = [⟨"apps/a.ts", "'as any'", some 1, "x as any"⟩] := by
    rw [sourceBreaches, hwalk]
    decide +kernel
  rw [hfound] at hfailed hreason hprints
  refine ⟨outcome, hstep, hfailed.mpr Nat.one_pos, hreason Nat.one_pos, hprints.trans ?_⟩
  congr 2

/-- Where nothing breaks a rule, a clock that shows no number of seconds ends the run. Where something does, not all of it
is echoed if the output lacks a character of the file; and where no file is selected, the step fails if the name of its
root cannot be asked for. -/
theorem scan_stage_unlike_walk_of_clock_and_encodings :
    let content : List UInt8 := "x as any".toList.map fun c => c.toNat.toUInt8
    let siteOf : String → List UInt8 → Binary64 → Site Unit := fun name bytes now =>
      ⟨⟨.directory [("apps", .directory [(name, .ofBytes bytes)])], [], Path.isAmong []⟩, now, ()⟩
    let clean := siteOf "a.ts" [] (.infinity false)
    let broken := siteOf "\uF7FF.ts" content .zero
    let plan : Verification Unit :=
      { root := .ofString "."
        runner := fun _ site => { result := .ok (), site }
        around := { output := { lacks := (· == '\uF7FF') } } }
    let empty : Site Unit :=
      ⟨⟨.directory [("\uF7FF", .directory [("apps", .empty)])], [], Path.isAmong []⟩, .zero, ()⟩
    let unnamed : Verification Unit :=
      { root := .ofString "\uF7FF"
        runner := fun _ site => { result := .ok (), site }
        around := { naming := { lacks := (· == '\uF7FF') } } }
    let spec : Spec := ⟨4, "anti-patterns", "Anti-pattern Scan", .scan, false⟩
    (sourceWalk plan.root clean.tree = (["apps/a.ts"], none) ∧ sourceBreaches plan.root clean.tree = [] ∧
      (plan.stage spec clean).step = none) ∧
    (sourceWalk plan.root broken.tree = (["apps/\uF7FF.ts"], none) ∧
      (sourceBreaches plan.root broken.tree).length = 1 ∧ (plan.work spec broken).prints = [.raw "1:x as any\n"]) ∧
    (sourceWalk unnamed.root empty.tree = ([], none) ∧
      (unnamed.stage spec empty).step.map (·.result) = some (some .failed)) := by
  intro content siteOf clean broken plan empty unnamed spec
  have hclean : sourceWalk plan.root clean.tree = (["apps/a.ts"], none) :=
    sourceWalk_of_directory "apps" (by decide +kernel) (by decide +kernel)
  have hbroken : sourceWalk plan.root broken.tree = (["apps/\uF7FF.ts"], none) :=
    sourceWalk_of_directory "apps" (by decide +kernel) (by decide +kernel)
  have hselect : ∀ {site : Site Unit} {file : String}, sourceWalk plan.root site.tree = ([file], none) →
      ∀ stamp, Performance.selection plan.root plan.around.naming site.tree stamp = .ok ([file], []) := by
    intro site file hwalk stamp
    rw [sourceWalk] at hwalk
    have hcount : ({ root := plan.root } : Selector).countable = .ok 500 := rfl
    rw [Performance.selection_of_named (by decide +kernel), Selector.collect, hcount, hwalk]
    rfl
  have hempty : sourceWalk unnamed.root empty.tree = ([], none) :=
    sourceWalk_of_directory "apps" (by decide +kernel) (by decide +kernel)
  refine ⟨⟨hclean, ?_, ?_⟩, ⟨hbroken, ?_, ?_⟩, hempty, ?_⟩
  · rw [sourceBreaches, hclean]
    decide +kernel
  · rw [stage, if_neg (by decide), Performance.ofTask, Performance.scan, hselect hclean]
    decide +kernel
  · rw [sourceBreaches, hbroken]
    decide +kernel
  · rw [work, Performance.ofTask, Performance.scan, hselect hbroken]
    decide +kernel
  · decide +kernel

end Verification

end PreMerge
