import PreMerge.Scan.Findings

/-! Scans one after the other. What becomes of a file does not depend on the files before it, so a scan adds its findings
to those so far (`run_both`), and the scan of two lists is that of the first one, and if nothing stops it that of the
second one after it (`scan_append`). It is stopped if and only if the scan of one of its files alone is
(`scan_stop_eq_none_iff`). -/

namespace PreMerge.Scan

variable {rules : List Rule} {tree : FileTree} {base : Option Path} {conditions : Conditions}

/-- The findings of two scans, one after the other. -/
def both (first second : Findings) : Findings where
  candidates := first.candidates + second.candidates
  scanned := first.scanned + second.scanned
  skipped := first.skipped + second.skipped
  unreadable := first.unreadable + second.unreadable
  violations := first.violations ++ second.violations
  shown := first.shown ++ second.shown
  log := first.log ++ second.log

theorem both_nil (findings : Findings) : both findings {} = findings := by
  apply Findings.ext <;> simp [both]

theorem nil_both (findings : Findings) : both {} findings = findings := by
  apply Findings.ext <;> simp [both]

theorem both_assoc (first second third : Findings) :
    both (both first second) third = both first (both second third) := by
  apply Findings.ext <;> simp [both, Nat.add_assoc]

theorem both_add (first second : Findings) (file : String) (verdict : Verdict) :
    (both first second).add file verdict = both first (second.add file verdict) := by
  cases verdict <;> simp [both, Findings.add, Nat.add_assoc]

theorem both_cutShort (first second : Findings) (texts : List String) :
    (both first second).cutShort texts = both first (second.cutShort texts) := by
  apply Findings.ext <;> simp [both, Findings.cutShort]

theorem echo_both (first second : Findings) : (both first second).echo = first.echo ++ second.echo :=
  String.join_append

/-- What becomes of a file, if its record can be written where it leaves one. -/
def settled (rules : List Rule) (tree : FileTree) (base : Option Path) (conditions : Conditions) (file : String) :
    Except Fault Verdict :=
  (examine rules tree base file conditions.naming).bind (settle conditions.stamp)

theorem run_cons (sofar : Findings) (file : String) (rest : List String) :
    run rules tree base conditions sofar (file :: rest) = match settled rules tree base conditions file with
      | .error fault => (sofar, some fault)
      | .ok verdict =>
        match conditions.output.write verdict.notices with
        | (texts, some fault) => (sofar.cutShort texts, some fault)
        | (_, none) => run rules tree base conditions (sofar.add file verdict) rest :=
  rfl

/-- A scan adds what it finds to what was found before. -/
theorem run_both (sofar : Findings) (files : List String) :
    run rules tree base conditions sofar files =
      (both sofar (scan rules tree base files conditions).1, (scan rules tree base files conditions).2) := by
  have hshift : ∀ before, run rules tree base conditions (both sofar before) files =
      (both sofar (run rules tree base conditions before files).1,
        (run rules tree base conditions before files).2) := by
    induction files with
    | nil => exact fun before => rfl
    | cons file rest ih =>
        intro before
        rw [run_cons, run_cons]
        cases settled rules tree base conditions file with
        | error fault => rfl
        | ok verdict =>
            dsimp only
            split
            · rw [both_cutShort]
            · rw [both_add, ih]
  rw [← both_nil sofar, hshift {}, both_nil]
  rfl

theorem scan_singleton_of_error {file : String} {fault : Fault}
    (h : settled rules tree base conditions file = .error fault) :
    scan rules tree base [file] conditions = ({}, some fault) := by
  rw [scan, run_cons, h]

theorem scan_singleton_of_ok {file : String} {verdict : Verdict}
    (h : settled rules tree base conditions file = .ok verdict)
    (hwrite : conditions.output.write verdict.notices = (verdict.notices, none)) :
    scan rules tree base [file] conditions = (({} : Findings).add file verdict, none) := by
  rw [scan, run_cons, h]
  dsimp only
  rw [hwrite]
  rfl

/-- If the scan of a file alone comes to its end, all is written that is to be shown. -/
theorem write_of_complete {file : String} {verdict : Verdict}
    (h : settled rules tree base conditions file = .ok verdict)
    (hstop : (scan rules tree base [file] conditions).2 = none) :
    conditions.output.write verdict.notices = (verdict.notices, none) := by
  rw [scan, run_cons, h] at hstop
  dsimp only at hstop
  split at hstop
  · cases hstop
  · next texts hwrite => rw [hwrite, Encoding.eq_of_write hwrite]

/-- The scan of a file in front of others goes on with these unless it is stopped. -/
theorem scan_cons (file : String) (rest : List String) :
    scan rules tree base (file :: rest) conditions = match scan rules tree base [file] conditions with
      | (found, none) =>
        (both found (scan rules tree base rest conditions).1, (scan rules tree base rest conditions).2)
      | (found, some fault) => (found, some fault) := by
  rw [scan, scan, run_cons, run_cons]
  cases settled rules tree base conditions file with
  | error fault => rfl
  | ok verdict =>
      dsimp only
      obtain ⟨texts, stop⟩ := conditions.output.write verdict.notices
      cases stop with
      | some fault => rfl
      | none => exact run_both _ rest

/-- A scan of two lists is that of the first one, and if that is not stopped that of the second one after it. -/
theorem scan_append (xs ys : List String) :
    scan rules tree base (xs ++ ys) conditions = match scan rules tree base xs conditions with
      | (found, none) =>
        (both found (scan rules tree base ys conditions).1, (scan rules tree base ys conditions).2)
      | (found, some fault) => (found, some fault) := by
  induction xs with
  | nil =>
      change scan rules tree base ys conditions =
        (both {} (scan rules tree base ys conditions).1, (scan rules tree base ys conditions).2)
      rw [nil_both]
  | cons file rest ih =>
      rw [List.cons_append, scan_cons, scan_cons file rest, ih]
      obtain ⟨found, stop⟩ := scan rules tree base [file] conditions
      cases stop with
      | some fault => rfl
      | none =>
          obtain ⟨findings, stop⟩ := scan rules tree base rest conditions
          cases stop with
          | none => exact Prod.ext (both_assoc ..).symm rfl
          | some fault => rfl

theorem scan_append_of_complete {before : List String} (hbefore : (scan rules tree base before conditions).2 = none)
    (after : List String) :
    scan rules tree base (before ++ after) conditions =
      (both (scan rules tree base before conditions).1 (scan rules tree base after conditions).1,
        (scan rules tree base after conditions).2) := by
  rw [scan_append]
  cases hscan : scan rules tree base before conditions with
  | mk findings stop =>
      rw [hscan] at hbefore
      obtain rfl : stop = none := hbefore
      rfl

/-- A scan comes to its end if and only if the scan of each file alone does. -/
theorem scan_stop_eq_none_iff {files : List String} :
    (scan rules tree base files conditions).2 = none ↔
      ∀ file ∈ files, (scan rules tree base [file] conditions).2 = none := by
  induction files with
  | nil => exact ⟨fun _ => nofun, fun _ => rfl⟩
  | cons file rest ih =>
      rw [scan_cons, List.forall_mem_cons, ← ih]
      obtain ⟨found, stop⟩ := scan rules tree base [file] conditions
      cases stop with
      | none => exact (and_iff_right rfl).symm
      | some fault => exact ⟨nofun, fun h => nomatch h.1⟩

/-- The first file that stops the scan of it alone stops the scan. -/
theorem scan_append_of_stop {before : List String} (hbefore : (scan rules tree base before conditions).2 = none)
    {file : String} {found : Findings} {fault : Fault}
    (hfile : scan rules tree base [file] conditions = (found, some fault)) (after : List String) :
    scan rules tree base (before ++ file :: after) conditions =
      (both (scan rules tree base before conditions).1 found, some fault) := by
  rw [scan_append_of_complete hbefore, scan_cons, hfile]

end PreMerge.Scan
