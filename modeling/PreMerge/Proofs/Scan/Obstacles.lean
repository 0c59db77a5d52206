import PreMerge.Proofs.Rule.Lines
import PreMerge.Proofs.Scan.Reference

/-! What stands in the way of a scan. A file that the system refuses to read is counted and recorded, and the scan
goes on as if it had not been in the list (`scan_append_of_unreadable`). While records can be written and the output
takes what is shown, only a path that is to be opened and cannot be asked for stops a scan (`scan_stop_eq_none_iff_open`),
and then what was shown and recorded is that of the files before (`scan_append_of_barred`). -/

namespace PreMerge.Scan

variable {rules : List Rule} {tree other : FileTree} {base : Option Path} {conditions : Conditions}
  {naming : Encoding} {file : String} {files : List String}

/-- The fault of a path that is to be opened and cannot be asked for. Its characters are looked at first. -/
def barredFault (base : Option Path) (naming : Encoding) (file : String) : Fault :=
  (naming.fault? (placeOf base file).text).getD .nullInPath

theorem examine_of_exempt (h : isSkipped file = true) : examine rules tree base file naming = .ok .exempt :=
  if_pos h

theorem examine_of_content (hskip : isSkipped file = false) {content : List UInt8}
    (hread : contentOf tree naming (placeOf base file) = .ok content) :
    examine rules tree base file naming =
      .ok (.read (PreMerge.violations rules (Text.Utf8.decode content) file)) := by
  rw [isSkipped] at hskip
  rw [examine, hskip, hread]
  rfl

/-- In the findings of the list that a file is in, leaving out what is said of that file. -/
def besides (file : String) (findings : Findings) : List Violation :=
  findings.violations.filter (·.file != file)

theorem besides_both (file : String) (first second : Findings) :
    besides file (both first second) = besides file first ++ besides file second :=
  List.filter_append ..

theorem besides_of_breaches {findings : Findings} (h : findings.violations = breaches rules tree base file) :
    besides file findings = [] := by
  rw [besides, h, List.filter_eq_nil_iff]
  intro violation hviolation
  unfold breaches at hviolation
  split at hviolation
  · cases hviolation
  · split at hviolation
    · simp [Rule.file_of_mem_violations hviolation]
    · cases hviolation

section Base

variable (hbase : ∀ directory, base = some directory → directory.hasNull = false)
include hbase

/-- Reading a file that is barred ends in the fault of its path, whatever the files are. -/
theorem examine_of_barred (rules : List Rule) (tree : FileTree) (h : Barred base naming file) :
    examine rules tree base file naming = .error (barredFault base naming file) := by
  obtain ⟨hskip, hpath⟩ := h
  rw [isSkipped] at hskip
  rw [examine, hskip, contentOf, barredFault]
  cases hnamed : naming.fault? (placeOf base file).text with
  | some fault =>
      have hother : ¬ fault.kind.family = .system := by
        rw [Encoding.kind_of_fault? hnamed]
        decide
      exact if_neg hother
  | none =>
      have hnull : '\u0000' ∈ file.toList := by
        rcases hpath with hnull | ⟨c, hc, hlacks⟩
        · exact hnull
        · rw [Encoding.fault?_eq_none_iff.mp hnamed c hc] at hlacks
          cases hlacks
      have hread : tree.read (placeOf base file) = .error .nullInPath := by
        rw [FileTree.read, if_pos ((hasNull_placeOf_iff hbase).mpr hnull)]
      dsimp only
      rw [hread]
      rfl

variable (hstamp : conditions.stamp = none)
include hstamp

theorem scan_singleton_of_barred (rules : List Rule) (tree : FileTree) (h : Barred base conditions.naming file) :
    scan rules tree base [file] conditions = ({}, some (barredFault base conditions.naming file)) := by
  apply scan_singleton_of_error
  rw [settled, hstamp, bind_settle_none]
  exact examine_of_barred hbase rules tree h

theorem scan_singleton_of_refused (hskip : isSkipped file = false) (hopen : ¬ Barred base conditions.naming file)
    {fault : Fault} (hread : tree.read (placeOf base file) = .error fault) :
    scan rules tree base [file] conditions = (({} : Findings).add file (.unreadable fault), none) := by
  refine scan_singleton_of_ok ?_ rfl
  rw [settled, hstamp, bind_settle_none]
  rcases examine_cases hbase rules tree hopen with ⟨hexempt, -⟩ | ⟨-, content, hcontent, -⟩ | ⟨-, why, hwhy, hok⟩
  · rw [hskip] at hexempt
    cases hexempt
  · cases hread.symm.trans hcontent
  · cases hread.symm.trans hwhy
    exact hok

section Taken

variable (htakes : Takes conditions.output rules tree base files)
include htakes

/-- A scan comes to its end if and only if every path can be asked for that is to be opened. -/
theorem scan_stop_eq_none_iff_open :
    (scan rules tree base files conditions).2 = none ↔ ∀ file ∈ files, ¬ Barred base conditions.naming file := by
  rw [scan_stop_eq_none_iff]
  refine forall₂_congr fun file hfile => ⟨?_, ?_⟩
  · intro hstop hbarred
    rw [scan_singleton_of_barred hbase hstamp rules tree hbarred] at hstop
    cases hstop
  · intro hopen
    obtain ⟨findings, hscan, -⟩ := tally_singleton hbase hstamp hopen (htakes file hfile)
    rw [hscan]

/-- Of the files before the one that stops a scan, all is shown and recorded, and nothing else is. -/
theorem scan_append_of_barred {before after : List String} (hfiles : ∀ earlier ∈ before, earlier ∈ files)
    (hbefore : ∀ earlier ∈ before, ¬ Barred base conditions.naming earlier)
    (hfile : Barred base conditions.naming file) :
    scan rules tree base (before ++ file :: after) conditions =
      ((scan rules tree base before conditions).1, some (barredFault base conditions.naming file)) := by
  have hcomplete := (scan_stop_eq_none_iff_open hbase hstamp (htakes.mono hfiles)).mpr hbefore
  rw [scan_append_of_stop hcomplete (scan_singleton_of_barred hbase hstamp rules tree hfile), both_nil]

/-- A file that is refused adds to the counts and the records, and changes nothing for the others. -/
theorem scan_append_of_unreadable {before after : List String} (hfiles : ∀ earlier ∈ before, earlier ∈ files)
    (hbefore : ∀ earlier ∈ before, ¬ Barred base conditions.naming earlier) (hskip : isSkipped file = false)
    (hopen : ¬ Barred base conditions.naming file) {fault : Fault}
    (hread : tree.read (placeOf base file) = .error fault) :
    scan rules tree base (before ++ file :: after) conditions =
      (both ((scan rules tree base before conditions).1.add file (.unreadable fault))
          (scan rules tree base after conditions).1,
        (scan rules tree base after conditions).2) := by
  have hcomplete := (scan_stop_eq_none_iff_open hbase hstamp (htakes.mono hfiles)).mpr hbefore
  rw [scan_append_of_complete hcomplete, scan_cons,
    scan_singleton_of_refused hbase hstamp hskip hopen hread]
  apply Prod.ext
  · dsimp only
    rw [← both_assoc, ← both_add, both_nil]
  · rfl

/-- Whatever becomes of one file, the violations in the others stay as they are. -/
theorem besides_scan_eq (hothers : Takes conditions.output rules other base files)
    (h : ∀ next ∈ files, next ≠ file → other.read (placeOf base next) = tree.read (placeOf base next)) :
    besides file (scan rules other base files conditions).1 =
      besides file (scan rules tree base files conditions).1 := by
  induction files with
  | nil => rfl
  | cons first rest ih =>
      obtain ⟨hfirst, hrest⟩ := List.forall_mem_cons.mp h
      obtain ⟨hshown, hlater⟩ := List.forall_mem_cons.mp htakes
      obtain ⟨hshown', hlater'⟩ := List.forall_mem_cons.mp hothers
      rw [scan_cons, scan_cons first rest]
      by_cases hbarred : Barred base conditions.naming first
      · rw [scan_singleton_of_barred hbase hstamp rules other hbarred,
          scan_singleton_of_barred hbase hstamp rules tree hbarred]
      · obtain ⟨found, hfound, htally⟩ := tally_singleton hbase hstamp hbarred hshown
        obtain ⟨found', hfound', htally'⟩ := tally_singleton hbase hstamp hbarred hshown'
        rw [hfound, hfound']
        dsimp only
        rw [besides_both, besides_both, ih hlater hlater' hrest]
        congr 1
        have hviolations := htally.violations
        have hviolations' := htally'.violations
        rw [List.flatMap_singleton] at hviolations hviolations'
        by_cases hsame : first = file
        · subst hsame
          rw [besides_of_breaches hviolations, besides_of_breaches hviolations']
        · have hequal : breaches rules other base first = breaches rules tree base first := by
            rw [breaches, breaches, hfirst hsame]
          rw [besides, besides, hviolations, hviolations', hequal]

end Taken

end Base

/-- While records can be written and the output takes what is shown, a scan is stopped by the first path that is to be
opened and holds the null character or one that names cannot have, and by nothing else; what was shown and recorded is
that of the files before. Exempt files are not opened, bytes of any kind are read, and a file that is refused adds to
the counts and the records alone. What becomes of one file is of no account for the violations in the others. -/
theorem scan_stopped_by_barred_only (rules : List Rule) (tree : FileTree) (base : Option Path) (files : List String)
    (conditions : Conditions) (hbase : ∀ directory, base = some directory → directory.hasNull = false)
    (hstamp : conditions.stamp = none) (htakes : Takes conditions.output rules tree base files) :
    ((scan rules tree base files conditions).2 ≠ none ↔ ∃ file ∈ files, isExempt (.ofString file) = false ∧
      ('\u0000' ∈ file.toList ∨ ∃ c ∈ (placeOf base file).text.toList, conditions.naming.lacks c = true)) ∧
    (∀ before file after, files = before ++ file :: after →
      (∀ earlier ∈ before, ¬ Barred base conditions.naming earlier) → Barred base conditions.naming file →
      (∃ fault, (scan rules tree base files conditions).2 = some fault ∧
        ((∀ c ∈ (placeOf base file).text.toList, conditions.naming.lacks c = false) →
          fault.kind.label = "ValueError" ∧ fault.message = "embedded null byte") ∧
        ((∃ c ∈ (placeOf base file).text.toList, conditions.naming.lacks c = true) →
          fault.kind.label = "UnicodeEncodeError")) ∧
      (scan rules tree base before conditions).2 = none ∧
      (scan rules tree base files conditions).1.echo = (scan rules tree base before conditions).1.echo ∧
      (scan rules tree base files conditions).1.log = (scan rules tree base before conditions).1.log) ∧
    (∀ file, isSkipped file = true → ∀ other : FileTree,
      examine rules other base file conditions.naming = .ok .exempt) ∧
    (∀ file bytes, isSkipped file = false → contentOf tree conditions.naming (placeOf base file) = .ok bytes →
      examine rules tree base file conditions.naming =
        .ok (.read (PreMerge.violations rules (Text.Utf8.decode bytes) file))) ∧
    (∀ before file after fault, files = before ++ file :: after →
      (∀ earlier ∈ before, ¬ Barred base conditions.naming earlier) →
      isSkipped file = false → ¬ Barred base conditions.naming file →
      tree.read (placeOf base file) = .error fault →
      scan rules tree base files conditions =
        (both ((scan rules tree base before conditions).1.add file (.unreadable fault))
            (scan rules tree base after conditions).1,
          (scan rules tree base after conditions).2)) ∧
    (∀ file (other : FileTree), Takes conditions.output rules other base files →
      (∀ next ∈ files, next ≠ file → other.read (placeOf base next) = tree.read (placeOf base next)) →
      (scan rules other base files conditions).1.violations.filter (·.file != file) =
        (scan rules tree base files conditions).1.violations.filter (·.file != file)) := by
  refine ⟨?_, ?_, fun file hskip other => examine_of_exempt hskip,
    fun file bytes hskip hread => examine_of_content hskip hread, ?_,
    fun file other hothers h => besides_scan_eq hbase hstamp htakes hothers h⟩
  · rw [ne_eq, scan_stop_eq_none_iff_open hbase hstamp htakes]
    simp only [not_forall, not_not, exists_prop]
    rfl
  · rintro before file after rfl hbefore hfile
    have hfiles : ∀ earlier ∈ before, earlier ∈ before ++ file :: after :=
      fun _ => List.mem_append_left (file :: after)
    have hcomplete := (scan_stop_eq_none_iff_open hbase hstamp (htakes.mono hfiles)).mpr hbefore
    rw [scan_append_of_barred hbase hstamp htakes hfiles hbefore hfile]
    refine ⟨⟨_, rfl, ?_, ?_⟩, hcomplete, rfl, rfl⟩
    · intro hnamed
      rw [barredFault, Encoding.fault?_eq_none_iff.mpr hnamed]
      exact ⟨rfl, rfl⟩
    · rintro ⟨c, hc, hlacks⟩
      cases hfault : conditions.naming.fault? (placeOf base file).text with
      | none =>
          rw [Encoding.fault?_eq_none_iff.mp hfault c hc] at hlacks
          cases hlacks
      | some fault =>
          rw [barredFault, hfault, Option.getD_some, Encoding.kind_of_fault? hfault]
          rfl
  · rintro before file after fault rfl hbefore hskip hopen hread
    exact scan_append_of_unreadable hbase hstamp htakes (fun _ => List.mem_append_left (file :: after)) hbefore hskip
      hopen hread

/-- A directory, a path that cannot be one, and a file behind it; the exempt path before them holds the null character,
too. -/
theorem scan_stopped_by_barred_only_of_directory :
    let content : Node := .ofBytes ("x as any".toList.map (·.toNat.toUInt8))
    let tree : FileTree := ⟨.directory [("r", .directory [("a.ts", content), ("d.ts", .empty)])], [], Path.isAmong []⟩
    let files := ["scripts/\x00.ts", "a.ts", "d.ts", "b\x00.ts", "a.ts"]
    let stopped := scan Rule.standard tree (some (.ofString "r")) files
    (∃ fault, stopped.2 = some fault ∧ fault.message = "embedded null byte") ∧
    stopped.1.echo = "1:x as any\n  BLOCKED: 'as any' in a.ts\n" ∧
    stopped.1.log.map Record.line =
      ["DEBUG mergegate.scanner.engine: Skipping scripts/\x00.ts: test or tooling file",
        "DEBUG mergegate.scanner.engine: Skipping d.ts: [Errno 21] Is a directory: 'r/d.ts'"] := by
  intro content tree files stopped
  have hbase : ∀ directory, some (Path.ofString "r") = some directory → directory.hasNull = false := by
    rintro directory ⟨⟩
    decide +kernel
  obtain ⟨-, hstopped, -⟩ := scan_stopped_by_barred_only Rule.standard tree (some (.ofString "r")) files {} hbase rfl
    fun _ _ _ _ _ _ => rfl
  have hnamed : ∀ (file : String), ∀ c ∈ (placeOf (some (.ofString "r")) file).text.toList,
      ({} : Conditions).naming.lacks c = false := fun _ _ _ => rfl
  have hclear : ∀ earlier ∈ ["scripts/\x00.ts", "a.ts", "d.ts"],
      ¬ Barred (some (.ofString "r")) ({} : Conditions).naming earlier := by
    rintro earlier hearlier ⟨hskip, hnull | ⟨c, hc, hlacks⟩⟩
    · revert earlier
      decide +kernel
    · rw [hnamed earlier c hc] at hlacks
      cases hlacks
  have hbarred : Barred (some (.ofString "r")) ({} : Conditions).naming "b\x00.ts" :=
    ⟨by decide +kernel, .inl (by decide +kernel)⟩
  obtain ⟨⟨fault, hfault, hnull, -⟩, -, hecho, hlog⟩ := hstopped _ "b\x00.ts" ["a.ts"] rfl hclear hbarred
  refine ⟨⟨fault, hfault, (hnull (hnamed _)).2⟩, ?_, ?_⟩
  · rw [hecho]
    decide +kernel
  · rw [hlog]
    decide +kernel

/-- Without any null character, a scan is stopped by the record of a directory while the clock shows no number of seconds, by
a name with a character that names lack, and by a violation with a character that the output lacks. -/
theorem scan_stopped_by_clock_and_encodings :
    let tree : FileTree := ⟨.directory [("d.ts", .empty)], [], Path.isAmong []⟩
    let clockless : Conditions := { stamp := stampFault? true .debug (.infinity false) }
    let narrow : Conditions := { naming := { lacks := (· == '\uF7FF') } }
    let content : Node := .ofBytes ("x as any".toList.map (·.toNat.toUInt8))
    let scarce : Conditions := { output := { lacks := (· == '\uF7FF') } }
    let holding : FileTree := { tree with root := .directory [("\uF7FF.ts", content)] }
    (scan Rule.standard tree none ["d.ts"] clockless).2.map (·.message) =
        some "cannot convert float infinity to integer" ∧
      (scan Rule.standard tree none ["\uF7FF.ts"] narrow).2.map (·.kind.label) = some "UnicodeEncodeError" ∧
      (scan Rule.standard holding none ["\uF7FF.ts"] scarce).2.map (·.kind.label) = some "UnicodeEncodeError" ∧
      '\u0000' ∉ "d.ts".toList ∧ '\u0000' ∉ "\uF7FF.ts".toList := by
  decide +kernel

end PreMerge.Scan
