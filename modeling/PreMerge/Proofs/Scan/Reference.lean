import PreMerge.Proofs.Files.Entries
import PreMerge.Proofs.Scan.Succession
import PreMerge.Proofs.Text.Lines

/-! A scan, file by file. What a file adds to the findings does not depend on the files before it, so the list
of files tells what is found in them (`Tally`). A file can be asked for, or it is exempt (`Barred` tells the others),
and the output takes what is shown (`Takes`): then nothing stops a scan (`exists_tally`). Lists one after the
other add up, and in another order they give the same counts (`scan_told_file_by_file`). -/

namespace PreMerge

namespace Text

/-- What is in a list and does not separate is in one of the pieces. -/
theorem exists_mem_pieces {α : Type} [DecidableEq α] {sep x : α} {xs : List α} (hx : x ∈ xs) (hsep : x ≠ sep) :
    ∃ piece ∈ pieces sep xs, x ∈ piece := by
  by_contra hnone
  have hjoined : ∀ ps : List (List α), (∀ piece ∈ ps, x ∉ piece) → x ∉ joinPieces sep ps := by
    intro ps hps
    fun_induction joinPieces sep ps with
    | case1 => simp
    | case2 piece => exact hps piece List.mem_cons_self
    | case3 piece next more ih =>
        obtain ⟨hpiece, hmore⟩ := List.forall_mem_cons.mp hps
        simp [hpiece, hsep, ih hmore]
  apply hjoined (pieces sep xs)
  · intro piece hpiece hmem
    exact hnone ⟨piece, hpiece, hmem⟩
  · rwa [joinPieces_pieces]

end Text

namespace Path

theorem hasNull_ofString {text : String} (h : '\u0000' ∉ text.toList) : (ofString text).hasNull = false := by
  rw [hasNull, List.any_eq_false]
  intro part hpart hnull
  obtain ⟨piece, hpiece, rfl⟩ := List.mem_map.mp hpart
  rw [String.toList_ofList, List.contains_iff_mem] at hnull
  exact h (Text.mem_of_mem_pieces (List.mem_filter.mp hpiece).1 hnull)

theorem hasNull_ofString_iff {text : String} : (ofString text).hasNull = true ↔ '\u0000' ∈ text.toList := by
  constructor
  · intro h
    by_contra hno
    rw [hasNull_ofString hno] at h
    cases h
  · intro h
    obtain ⟨piece, hpiece, hnull⟩ := Text.exists_mem_pieces h (by decide : '\u0000' ≠ '/')
    have hpart : isPart piece = true := by
      rw [isPart, Bool.and_eq_true, bne_iff_ne, bne_iff_ne]
      constructor
      · rintro rfl
        cases hnull
      · rintro rfl
        simp at hnull
    rw [hasNull, List.any_eq_true]
    refine ⟨String.ofList piece, List.mem_map_of_mem (List.mem_filter.mpr ⟨hpiece, hpart⟩), ?_⟩
    rwa [String.toList_ofList, List.contains_iff_mem]

end Path

/-- The lines that are shown of a violation: the line with its number, if there is one, and the rule with the file. -/
def Violation.spelled (violation : Violation) : String :=
  (match violation.line with
    | some number => toString number ++ ":" ++ violation.snippet ++ "\n"
    | none => "") ++
    "  BLOCKED: " ++ violation.rule ++ " in " ++ violation.file ++ "\n"

theorem Violation.announcement_eq (violation : Violation) : violation.announcement = violation.spelled := by
  obtain ⟨file, rule, line, snippet⟩ := violation
  apply String.toList_injective
  cases line with
  | none => simp [announcement, notices, spelled]
  | some number => simp [announcement, notices, spelled]

namespace Scan

variable {rules : List Rule} {tree : FileTree} {base : Option Path} {conditions : Conditions} {file : String}
  {files : List String}

theorem hasNull_placeOf_iff (hbase : ∀ directory, base = some directory → directory.hasNull = false) :
    (placeOf base file).hasNull = true ↔ '\u0000' ∈ file.toList := by
  cases base with
  | none => exact Path.hasNull_ofString_iff
  | some directory =>
      rw [placeOf, Path.hasNull_append (hbase directory rfl)]
      exact Path.hasNull_ofString_iff

/-- The violations in one file: none in one that is exempt or cannot be read. -/
def breaches (rules : List Rule) (tree : FileTree) (base : Option Path) (file : String) : List Violation :=
  if isExempt (.ofString file) then []
  else match tree.read (placeOf base file) with
    | .ok content => PreMerge.violations rules (Text.Utf8.decode content) file
    | .error _ => []

/-- Whether a file is exempt. -/
def isSkipped (file : String) : Bool :=
  isExempt (.ofString file)

/-- Whether the rules are held against a file: it is not exempt and can be read. -/
def isScanned (tree : FileTree) (base : Option Path) (file : String) : Bool :=
  !isSkipped file && (tree.read (placeOf base file)).isOk

/-- Whether a file is not exempt and cannot be read. -/
def isUnreadable (tree : FileTree) (base : Option Path) (file : String) : Bool :=
  !isSkipped file && !(tree.read (placeOf base file)).isOk

/-- Why the rules are not held against a file. -/
def excuse (tree : FileTree) (base : Option Path) (file : String) : String :=
  if isSkipped file then "test or tooling file"
  else match tree.read (placeOf base file) with
    | .ok _ => ""
    | .error fault => fault.message

/-- A file that is to be opened, and cannot be asked for: it holds the null character, or its path one that the encoding
of names lacks. -/
def Barred (base : Option Path) (naming : Encoding) (file : String) : Prop :=
  isSkipped file = false ∧
    ('\u0000' ∈ file.toList ∨ ∃ c ∈ (placeOf base file).text.toList, naming.lacks c = true)

/-- The output has all the characters of what is shown of files. -/
def Takes (output : Encoding) (rules : List Rule) (tree : FileTree) (base : Option Path) (files : List String) : Prop :=
  ∀ file ∈ files, ∀ violation ∈ breaches rules tree base file, ∀ c ∈ violation.spelled.toList, output.lacks c = false

theorem Takes.mono {output : Encoding} {others : List String} (h : Takes output rules tree base files)
    (hothers : ∀ file ∈ others, file ∈ files) : Takes output rules tree base others :=
  fun file hfile => h file (hothers file hfile)

theorem write_notices {output : Encoding} {violations : List Violation}
    (h : ∀ violation ∈ violations, ∀ c ∈ violation.spelled.toList, output.lacks c = false) :
    output.write (violations.flatMap Violation.notices) = (violations.flatMap Violation.notices, none) := by
  apply Encoding.write_of_taken
  intro text htext
  obtain ⟨violation, hviolation, hnotice⟩ := List.mem_flatMap.mp htext
  refine Encoding.fault?_eq_none_iff.mpr fun c hc => h violation hviolation c ?_
  rw [← violation.announcement_eq, Violation.announcement, String.toList_join]
  exact List.mem_flatMap.mpr ⟨text, hnotice, hc⟩

theorem contentOf_of_named {naming : Encoding} (h : naming.fault? (placeOf base file).text = none) :
    contentOf tree naming (placeOf base file) = tree.read (placeOf base file) := by
  rw [contentOf, h]

section Base

variable (hbase : ∀ directory, base = some directory → directory.hasNull = false)
include hbase

/-- What is made of a file that is not barred: it is exempt, it can be read, or the system refuses it. -/
theorem examine_cases (rules : List Rule) (tree : FileTree) {naming : Encoding} (h : ¬ Barred base naming file) :
    (isSkipped file = true ∧ examine rules tree base file naming = .ok .exempt) ∨
    (isSkipped file = false ∧ ∃ content, tree.read (placeOf base file) = .ok content ∧
      examine rules tree base file naming = .ok (.read (PreMerge.violations rules (Text.Utf8.decode content) file))) ∨
    (isSkipped file = false ∧ ∃ fault, tree.read (placeOf base file) = .error fault ∧
      examine rules tree base file naming = .ok (.unreadable fault)) := by
  unfold examine
  cases hskip : isSkipped file with
  | true => exact .inl ⟨rfl, if_pos hskip⟩
  | false =>
      have hopen : '\u0000' ∉ file.toList ∧ naming.fault? (placeOf base file).text = none := by
        constructor
        · exact fun hnull => h ⟨hskip, .inl hnull⟩
        · refine Encoding.fault?_eq_none_iff.mpr fun c hc => ?_
          by_contra hlacks
          exact h ⟨hskip, .inr ⟨c, hc, Bool.not_eq_false _ ▸ hlacks⟩⟩
      have hexempt : ¬ isExempt (.ofString file) = true := by
        rw [← isSkipped, hskip]
        exact Bool.false_ne_true
      refine .inr ?_
      rw [if_neg hexempt, contentOf_of_named hopen.2]
      cases hread : tree.read (placeOf base file) with
      | ok content => exact .inl ⟨rfl, content, rfl, rfl⟩
      | error fault =>
          rcases FileTree.read_error hread with ⟨hnull, -⟩ | ⟨-, hsystem⟩
          · exact absurd ((hasNull_placeOf_iff hbase).mp hnull) hopen.1
          · exact .inr ⟨rfl, fault, rfl, if_pos (by rw [hsystem]; rfl)⟩

end Base

theorem examine_contained {naming : Encoding} {fault : Fault}
    (h : examine rules tree base file naming = .error fault) : fault.kind.interrupts = false := by
  unfold examine at h
  split at h
  · cases h
  · split at h
    · cases h
    · next other hcontent =>
      split at h
      · cases h
      · cases h
        unfold contentOf at hcontent
        split at hcontent
        · next why hwhy =>
          cases hcontent
          rw [Encoding.kind_of_fault? hwhy]
          rfl
        · rcases FileTree.read_error hcontent with ⟨-, rfl⟩ | ⟨-, hsystem⟩
          · rfl
          · rw [hsystem]
            rfl

/-- Nothing that a scan meets interrupts a run, unless that is why no record can be written. -/
theorem scan_contained (hstamp : ∀ why, conditions.stamp = some why → why.kind.interrupts = false) {fault : Fault}
    (h : (scan rules tree base files conditions).2 = some fault) : fault.kind.interrupts = false := by
  have hsettle : ∀ {verdict : Verdict} {why : Fault}, settle conditions.stamp verdict = .error why →
      why.kind.interrupts = false := by
    intro verdict why hwhy
    unfold settle at hwhy
    split at hwhy
    · next other hother =>
      split at hwhy
      · cases hwhy
        exact hstamp _ hother
      · cases hwhy
    · cases hwhy
  suffices hrun : ∀ sofar, (run rules tree base conditions sofar files).2 = some fault →
      fault.kind.interrupts = false from hrun {} h
  clear h
  induction files with
  | nil => nofun
  | cons file rest ih =>
      intro sofar hstop
      rw [run_cons] at hstop
      split at hstop
      · next why hsettled =>
        cases hstop
        unfold settled at hsettled
        cases hexamine : examine rules tree base file conditions.naming with
        | error other =>
            rw [hexamine] at hsettled
            cases hsettled
            exact examine_contained hexamine
        | ok verdict =>
            rw [hexamine] at hsettled
            exact hsettle hsettled
      · split at hstop
        · next texts why hwrite =>
          cases hstop
          rw [Encoding.kind_of_write (by rw [hwrite])]
          rfl
        · exact ih _ hstop

/-- The findings in files, told file by file. -/
structure Tally (rules : List Rule) (tree : FileTree) (base : Option Path) (files : List String)
    (findings : Findings) : Prop where
  candidates : findings.candidates = files.length
  scanned : findings.scanned = files.countP (isScanned tree base)
  skipped : findings.skipped = files.countP isSkipped
  unreadable : findings.unreadable = files.countP (isUnreadable tree base)
  violations : findings.violations = files.flatMap (breaches rules tree base)
  shown : findings.shown = findings.violations.map Violation.spelled
  log : findings.log = (files.filter (!isScanned tree base ·)).map fun file =>
    ⟨.debug, .engine, "Skipping " ++ file ++ ": " ++ excuse tree base file⟩

theorem Tally.nil : Tally rules tree base [] {} :=
  ⟨rfl, rfl, rfl, rfl, rfl, rfl, rfl⟩

theorem Tally.unique {files : List String} {findings others : Findings}
    (h : Tally rules tree base files findings) (k : Tally rules tree base files others) : findings = others := by
  have hviolations := h.violations.trans k.violations.symm
  apply Findings.ext
  · exact h.candidates.trans k.candidates.symm
  · exact h.scanned.trans k.scanned.symm
  · exact h.skipped.trans k.skipped.symm
  · exact h.unreadable.trans k.unreadable.symm
  · exact hviolations
  · rw [h.shown, k.shown, hviolations]
  · exact h.log.trans k.log.symm

theorem Tally.append {xs ys : List String} {first second : Findings} (h : Tally rules tree base xs first)
    (k : Tally rules tree base ys second) : Tally rules tree base (xs ++ ys) (both first second) where
  candidates := by rw [both, h.candidates, k.candidates, List.length_append]
  scanned := by rw [both, h.scanned, k.scanned, List.countP_append]
  skipped := by rw [both, h.skipped, k.skipped, List.countP_append]
  unreadable := by rw [both, h.unreadable, k.unreadable, List.countP_append]
  violations := by rw [both, h.violations, k.violations, List.flatMap_append]
  shown := by rw [both, h.shown, k.shown, List.map_append]
  log := by rw [both, h.log, k.log, List.filter_append, List.map_append]

/-- The order of the files does not count for the counts, nor for whether any rule is broken. -/
theorem Tally.perm {xs ys : List String} {findings others : Findings} (h : Tally rules tree base xs findings)
    (k : Tally rules tree base ys others) (hperm : ys.Perm xs) :
    others.candidates = findings.candidates ∧ others.scanned = findings.scanned ∧
      others.skipped = findings.skipped ∧ others.unreadable = findings.unreadable ∧
      others.violations.length = findings.violations.length ∧ others.passed = findings.passed := by
  have hviolations : others.violations.Perm findings.violations := by
    rw [h.violations, k.violations]
    exact hperm.flatMap_right (breaches rules tree base)
  refine ⟨?_, ?_, ?_, ?_, hviolations.length_eq, hviolations.isEmpty_eq⟩
  · rw [h.candidates, k.candidates, hperm.length_eq]
  · rw [h.scanned, k.scanned, hperm.countP_eq]
  · rw [h.skipped, k.skipped, hperm.countP_eq]
  · rw [h.unreadable, k.unreadable, hperm.countP_eq]

section Complete

variable (hbase : ∀ directory, base = some directory → directory.hasNull = false)
  (hstamp : conditions.stamp = none)
include hbase hstamp

/-- The scan of a file alone that is not barred, and of which all can be shown, tells what is in that file. -/
theorem tally_singleton (hfile : ¬ Barred base conditions.naming file)
    (htakes : ∀ violation ∈ breaches rules tree base file, ∀ c ∈ violation.spelled.toList,
      conditions.output.lacks c = false) :
    ∃ findings, scan rules tree base [file] conditions = (findings, none) ∧
      Tally rules tree base [file] findings := by
  have hsettled : settled rules tree base conditions file = examine rules tree base file conditions.naming := by
    rw [settled, hstamp, bind_settle_none]
  rcases examine_cases hbase rules tree hfile with
    ⟨hskip, hok⟩ | ⟨hskip, content, hread, hok⟩ | ⟨hskip, fault, hread, hok⟩
  · refine ⟨_, scan_singleton_of_ok (hsettled.trans hok) rfl, ?_⟩
    have hno : isScanned tree base file = false ∧ isUnreadable tree base file = false := by
      simp [isScanned, isUnreadable, hskip]
    have hnone : breaches rules tree base file = [] := if_pos hskip
    have hexcuse : excuse tree base file = "test or tooling file" := if_pos hskip
    constructor <;> simp [Findings.add, Findings.skipping, *]
  · have hfound : breaches rules tree base file =
        PreMerge.violations rules (Text.Utf8.decode content) file := by
      rw [breaches, ← isSkipped, hskip, if_neg Bool.false_ne_true, hread]
    rw [hfound] at htakes
    refine ⟨_, scan_singleton_of_ok (hsettled.trans hok) (write_notices htakes), ?_⟩
    have hyes : isScanned tree base file = true ∧ isUnreadable tree base file = false := by
      simp [isScanned, isUnreadable, hskip, hread, Except.isOk, Except.toBool]
    constructor <;> simp [Findings.add, Violation.announcement_eq, *]
  · refine ⟨_, scan_singleton_of_ok (hsettled.trans hok) rfl, ?_⟩
    have hno : isScanned tree base file = false ∧ isUnreadable tree base file = true := by
      simp [isScanned, isUnreadable, hskip, hread, Except.isOk, Except.toBool]
    have hnone : breaches rules tree base file = [] := by
      rw [breaches, ← isSkipped, hskip, if_neg Bool.false_ne_true, hread]
    have hexcuse : excuse tree base file = fault.message := by
      rw [excuse, hskip, if_neg Bool.false_ne_true, hread]
    constructor <;> simp [Findings.add, Findings.skipping, *]

/-- A scan of files that are not barred is not stopped, and tells what is found in them. -/
theorem exists_tally (hfiles : ∀ file ∈ files, ¬ Barred base conditions.naming file)
    (htakes : Takes conditions.output rules tree base files) :
    ∃ findings, scan rules tree base files conditions = (findings, none) ∧ Tally rules tree base files findings := by
  induction files with
  | nil => exact ⟨{}, rfl, .nil⟩
  | cons file rest ih =>
      obtain ⟨hfile, hrest⟩ := List.forall_mem_cons.mp hfiles
      obtain ⟨hshown, hlater⟩ := List.forall_mem_cons.mp htakes
      obtain ⟨first, hfirst, h⟩ := tally_singleton hbase hstamp hfile hshown
      obtain ⟨second, hsecond, k⟩ := ih hrest hlater
      exact ⟨both first second, by rw [scan_cons, hfirst, hsecond], h.append k⟩

end Complete

/-- Every file is scanned, skipped or unreadable, and only one of these. -/
theorem length_eq_scanned_add_skipped_add_unreadable (tree : FileTree) (base : Option Path)
    (files : List String) : files.length = files.countP (isScanned tree base) + files.countP isSkipped +
      files.countP (isUnreadable tree base) := by
  induction files with
  | nil => rfl
  | cons file rest ih =>
      rw [List.length_cons, ih, List.countP_cons, List.countP_cons, List.countP_cons]
      unfold isScanned isUnreadable
      cases isSkipped file <;> cases (tree.read (placeOf base file)).isOk <;> simp <;> omega

/-- As long as records can be written, the files can be asked for and the output takes what is shown, a scan comes to
its end, and what it finds is what the files tell one by one: the violations in those that are read, the lines of each
violation, a record for each other file, and counts that cover the list. Lists one after the other add up, and the
order of a list does not count for the counts and the verdict. -/
theorem scan_told_file_by_file (rules : List Rule) (tree : FileTree) (base : Option Path) (files : List String)
    (conditions : Conditions) (hbase : ∀ directory, base = some directory → directory.hasNull = false)
    (hfiles : ∀ file ∈ files, isExempt (.ofString file) = false → '\u0000' ∉ file.toList ∧
      ∀ c ∈ (placeOf base file).text.toList, conditions.naming.lacks c = false)
    (hstamp : conditions.stamp = none) (htakes : Takes conditions.output rules tree base files) :
    ∃ findings, scan rules tree base files conditions = (findings, none) ∧
      findings.violations = files.flatMap (breaches rules tree base) ∧
      findings.candidates = files.length ∧
      findings.candidates = findings.scanned + findings.skipped + findings.unreadable ∧
      findings.scanned = files.countP (isScanned tree base) ∧
      findings.skipped = files.countP isSkipped ∧
      findings.echo = String.join (findings.violations.map Violation.spelled) ∧
      findings.log = (files.filter (!isScanned tree base ·)).map (fun file =>
        ⟨.debug, .engine, "Skipping " ++ file ++ ": " ++ excuse tree base file⟩) ∧
      (∀ xs ys, files = xs ++ ys → ∃ first second, scan rules tree base xs conditions = (first, none) ∧
        scan rules tree base ys conditions = (second, none) ∧ findings = both first second ∧
        findings.echo = first.echo ++ second.echo) ∧
      (∀ ys, ys.Perm files → ∃ others, scan rules tree base ys conditions = (others, none) ∧
        others.candidates = findings.candidates ∧ others.scanned = findings.scanned ∧
        others.skipped = findings.skipped ∧ others.unreadable = findings.unreadable ∧
        others.violations.length = findings.violations.length ∧ others.passed = findings.passed) := by
  have hopen : ∀ file ∈ files, ¬ Barred base conditions.naming file := by
    rintro file hfile ⟨hskip, hnull | ⟨c, hc, hlacks⟩⟩
    · exact (hfiles file hfile hskip).1 hnull
    · rw [(hfiles file hfile hskip).2 c hc] at hlacks
      cases hlacks
  have htold : ∀ ys : List String, (∀ file ∈ ys, file ∈ files) →
      ∃ findings, scan rules tree base ys conditions = (findings, none) ∧ Tally rules tree base ys findings :=
    fun ys hys => exists_tally hbase hstamp (fun file hfile => hopen file (hys file hfile)) (htakes.mono hys)
  obtain ⟨findings, hscan, h⟩ := htold files fun _ => id
  refine ⟨findings, hscan, h.violations, h.candidates, ?_, h.scanned, h.skipped, ?_, h.log, ?_, ?_⟩
  · rw [h.candidates, h.scanned, h.skipped, h.unreadable]
    exact length_eq_scanned_add_skipped_add_unreadable tree base files
  · rw [Findings.echo, h.shown]
  · rintro xs ys rfl
    obtain ⟨first, hfirst, k⟩ := htold xs fun _ => List.mem_append_left ys
    obtain ⟨second, hsecond, l⟩ := htold ys fun _ => List.mem_append_right xs
    obtain rfl := h.unique (k.append l)
    exact ⟨first, second, hfirst, hsecond, rfl, echo_both first second⟩
  · intro ys hperm
    obtain ⟨others, hothers, k⟩ := htold ys fun _ => hperm.mem_iff.mp
    exact ⟨others, hothers, h.perm k hperm⟩

/-- A file that is read twice, with one between that is exempt and one that may not be read. -/
theorem scan_told_file_by_file_of_repeated :
    let content : Node := .ofBytes ("x as any".toList.map (·.toNat.toUInt8))
    let tree : FileTree := ⟨.directory [("r", .directory [("a.ts", content), ("b.ts", content)])], [],
      Path.isAmong [.ofString "r/b.ts"]⟩
    let files := ["a.ts", "scripts/a.ts", "b.ts", "./a.ts"]
    ∃ findings, scan Rule.standard tree (some (.ofString "r")) files = (findings, none) ∧
      findings.scanned = 2 ∧ findings.skipped = 1 ∧ findings.unreadable = 1 ∧
      findings.echo = "1:x as any\n  BLOCKED: 'as any' in a.ts\n" ++
        "1:x as any\n  BLOCKED: 'as any' in ./a.ts\n" ∧
      findings.log.map Record.line =
        ["DEBUG mergegate.scanner.engine: Skipping scripts/a.ts: test or tooling file",
          "DEBUG mergegate.scanner.engine: Skipping b.ts: [Errno 13] Permission denied: 'r/b.ts'"] := by
  intro content tree files
  have hclear : ∀ file ∈ files, '\u0000' ∉ file.toList := by decide
  obtain ⟨findings, hscan, hviolations, hcandidates, hsum, hscanned, hskipped, hecho, hlog, -, -⟩ :=
    scan_told_file_by_file Rule.standard tree (some (.ofString "r")) files {}
      (by rintro directory ⟨⟩; decide +kernel) (fun file hfile _ => ⟨hclear file hfile, fun _ _ => rfl⟩) rfl
      fun _ _ _ _ _ _ => rfl
  have htwo : findings.scanned = 2 := by
    rw [hscanned]
    decide +kernel
  have hone : findings.skipped = 1 := by
    rw [hskipped]
    decide +kernel
  have hfour : findings.candidates = 4 := hcandidates
  refine ⟨findings, hscan, htwo, hone, by omega, ?_, ?_⟩
  · rw [hecho, hviolations]
    decide +kernel
  · rw [hlog]
    decide +kernel

/-- While the clock shows no number of seconds, an exempt file stops a scan before it is counted. So does a file whose name
has a character that names lack, without any null character, and of one whose violation the output lacks a character of
not all is shown. -/
theorem scan_leaves_out_unrecorded_and_unnamed :
    let tree : FileTree := ⟨.directory [], [], Path.isAmong []⟩
    let clockless : Conditions := { stamp := stampFault? true .debug (.infinity false) }
    let narrow : Conditions := { naming := { lacks := (· == '\uF7FF') } }
    let content : Node := .ofBytes ("x as any".toList.map (·.toNat.toUInt8))
    let scarce : Conditions := { output := { lacks := (· == '\uF7FF') } }
    let clockstopped := scan Rule.standard tree none ["scripts/x.ts"] clockless
    let unnamed := scan Rule.standard tree none ["\uF7FF.ts"] narrow
    let unshown := scan Rule.standard { tree with root := .directory [("\uF7FF.ts", content)] } none ["\uF7FF.ts"] scarce
    clockstopped.2 ≠ none ∧ clockstopped.1.candidates = 0 ∧ clockstopped.1.log = [] ∧
      unnamed.2 ≠ none ∧ unnamed.1.candidates = 0 ∧ unshown.2 ≠ none ∧ unshown.1.echo = "1:x as any\n" := by
  decide +kernel

end Scan

end PreMerge
