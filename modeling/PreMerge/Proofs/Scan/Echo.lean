import Mathlib.Data.List.Basic
import PreMerge.Proofs.Rule.Lines
import PreMerge.Proofs.Scan.Reference

/-! The text that a scan shows, read back. Cut at line feeds it falls into lines that say by themselves what they
are: a blocked file, or a line of it in front of one. No name of a rule holds what stands behind it, and no line holds
a line feed, so one notice is read in front of whatever follows (`read_lines`), and all of them one after the other
(`readText_of_lines`). A scan shows just what it keeps (`scan_told`), unless the output refuses it. -/

namespace PreMerge

namespace Text

theorem dropPrefix?_append (mark rest : List Char) : (mark ++ rest).dropPrefix? mark = some rest :=
  List.dropPrefix?_append_of_beq rest (beq_self_eq_true mark)

/-- A text is cut at the first place of a mark, if no mark begins before it. -/
theorem dropInfix?_append {mark first : List Char} (h : ¬ mark <:+: first ++ mark.dropLast) (rest : List Char) :
    (first ++ (mark ++ rest)).dropInfix? mark = some (first, rest) := by
  rw [← List.append_assoc, List.dropInfix?_eq_some_iff]
  refine ⟨⟨mark, rfl, beq_self_eq_true mark⟩, ?_⟩
  intro before found after hcut hfound
  obtain rfl := eq_of_beq hfound
  by_contra hshort
  have hlonger : first ++ found.dropLast <+: first ++ found ++ rest := by
    rw [List.append_assoc, List.prefix_append_right_inj]
    exact (List.dropLast_prefix found).trans (List.prefix_append found rest)
  have hshorter : before ++ found <+: first ++ found.dropLast := by
    apply List.prefix_of_prefix_length_le ⟨after, hcut.symm⟩ hlonger
    rw [List.length_append, List.length_append, List.length_dropLast]
    omega
  exact h ((List.suffix_append before found).isInfix.trans hshorter.isInfix)

end Text

/-- What is shown of a violation: a line with its number, or the file alone. -/
structure Notice where
  file : String
  rule : String
  line : Option (Nat × String)
  deriving DecidableEq, Repr

def Violation.notice (violation : Violation) : Notice :=
  ⟨violation.file, violation.rule, violation.line.map (·, violation.snippet)⟩

namespace Notice

/-- The line that names a blocked file and the rule that it breaks. -/
def blocked (notice : Notice) : List Char :=
  "  BLOCKED: ".toList ++ (notice.rule.toList ++ (" in ".toList ++ notice.file.toList))

/-- A line of a file with its number in front. -/
def numbered (found : Nat × String) : List Char :=
  (toString found.1).toList ++ ([':'] ++ found.2.toList)

def lines (notice : Notice) : List (List Char) :=
  match notice.line with
  | some found => [numbered found, notice.blocked]
  | none => [notice.blocked]

/-- A rule and a file, read from the line that names them. -/
def readBlocked (line : List Char) : Option (String × String) :=
  ((line.dropPrefix? "  BLOCKED: ".toList).bind (·.dropInfix? " in ".toList)).map
    (Prod.map String.ofList String.ofList)

/-- A number and a line, read from what is before the first colon and behind it. -/
def readNumbered (line : List Char) : Option (Nat × String) :=
  match line.dropInfix? [':'] with
  | some (digits, text) =>
    if digits ≠ [] ∧ digits.all Char.isDigit = true then some (Nat.ofDigitChars 10 digits 0, String.ofList text)
    else none
  | none => none

/-- The notices in lines. A numbered line goes with the one behind it that names a file. -/
def read : List (List Char) → Option (List Notice)
  | [] => some []
  | first :: rest =>
    match readBlocked first with
    | some (rule, file) => (read rest).map (⟨file, rule, none⟩ :: ·)
    | none =>
      match rest with
      | [] => none
      | second :: more =>
        match readNumbered first, readBlocked second with
        | some found, some (rule, file) => (read more).map (⟨file, rule, some found⟩ :: ·)
        | _, _ => none

/-- The notices in a text that is cut at its line feeds. -/
def readText (text : String) : Option (List Notice) :=
  read (Text.dropEmptyLast (Text.pieces '\n' text.toList))

/-- What keeps the lines of a notice apart, and the words in them. -/
structure Readable (notice : Notice) : Prop where
  file : '\n' ∉ notice.file.toList
  rule : '\n' ∉ notice.rule.toList ∧ ¬ " in ".toList <:+: notice.rule.toList ++ " in ".toList.dropLast
  line : ∀ found, notice.line = some found → '\n' ∉ found.2.toList

theorem isDigit_of_mem_toString {number : Nat} {c : Char} (h : c ∈ (toString number).toList) : c.isDigit = true := by
  rw [Nat.toString_eq_ofList_toDigits, String.toList_ofList] at h
  exact Nat.isDigit_of_mem_toDigits (by decide) (by decide) h

theorem toList_toString_ne_nil (number : Nat) : (toString number).toList ≠ [] := by
  rw [Nat.toString_eq_ofList_toDigits, String.toList_ofList]
  exact Nat.toDigits_ne_nil

theorem readNumbered_numbered (found : Nat × String) : readNumbered (numbered found) = some found := by
  obtain ⟨number, text⟩ := found
  have hdigits : (toString number).toList.all Char.isDigit = true :=
    List.all_eq_true.mpr fun c hc => isDigit_of_mem_toString hc
  have hcolon : ¬ [':'] <:+: (toString number).toList ++ [':'].dropLast := by
    intro hwithin
    have hmem : ':' ∈ (toString number).toList := by simpa using hwithin.subset (List.mem_singleton_self ':')
    exact absurd (isDigit_of_mem_toString hmem) (by decide)
  unfold readNumbered numbered
  rw [Text.dropInfix?_append hcolon]
  dsimp only
  rw [if_pos ⟨toList_toString_ne_nil number, hdigits⟩, Nat.toString_eq_ofList_toDigits, String.toList_ofList,
    Nat.ofDigitChars_ten_toDigits, String.ofList_toList]

theorem readBlocked_blocked {notice : Notice} (h : notice.Readable) :
    readBlocked notice.blocked = some (notice.rule, notice.file) := by
  unfold readBlocked blocked
  rw [Text.dropPrefix?_append, Option.bind_some, Text.dropInfix?_append h.rule.2, Option.map_some, Prod.map_apply,
    String.ofList_toList, String.ofList_toList]

/-- A line that starts with a number does not name a file. -/
theorem readBlocked_numbered (found : Nat × String) : readBlocked (numbered found) = none := by
  have hmark : "  BLOCKED: ".toList = ' ' :: " BLOCKED: ".toList := rfl
  obtain ⟨c, more, hnumber⟩ := List.exists_cons_of_ne_nil (toList_toString_ne_nil found.1)
  have hdigit : c.isDigit = true := by
    have hmem : c ∈ (toString found.1).toList := by
      rw [hnumber]
      exact List.mem_cons_self
    exact isDigit_of_mem_toString hmem
  have hspace : ¬ (c == ' ') = true := by
    intro hsame
    rw [eq_of_beq hsame] at hdigit
    exact absurd hdigit (by decide)
  rw [readBlocked, numbered, hnumber, List.cons_append, hmark, List.dropPrefix?, if_neg hspace, Option.bind_none,
    Option.map_none]

theorem feed_not_mem_blocked {notice : Notice} (h : notice.Readable) : '\n' ∉ notice.blocked := by
  unfold blocked
  rw [List.mem_append, List.mem_append, List.mem_append]
  rintro (hmark | hrule | hmark | hfile)
  · exact absurd hmark (by decide)
  · exact h.rule.1 hrule
  · exact absurd hmark (by decide)
  · exact h.file hfile

theorem feed_not_mem_numbered {found : Nat × String} (h : '\n' ∉ found.2.toList) : '\n' ∉ numbered found := by
  unfold numbered
  rw [List.mem_append, List.mem_append]
  rintro (hnumber | hcolon | htext)
  · exact absurd (isDigit_of_mem_toString hnumber) (by decide)
  · exact absurd hcolon (by decide)
  · exact h htext

theorem feed_not_mem_lines {notice : Notice} (h : notice.Readable) : ∀ line ∈ notice.lines, '\n' ∉ line := by
  have hblocked := feed_not_mem_blocked h
  unfold lines
  split
  · next found hline =>
    exact List.forall_mem_cons.mpr ⟨feed_not_mem_numbered (h.line found hline), List.forall_mem_singleton.mpr hblocked⟩
  · exact List.forall_mem_singleton.mpr hblocked

/-- One notice is read in front of whatever follows. -/
theorem read_lines {notice : Notice} (h : notice.Readable) (rest : List (List Char)) :
    read (notice.lines ++ rest) = (read rest).map (notice :: ·) := by
  have hblocked := readBlocked_blocked h
  obtain ⟨file, rule, line⟩ := notice
  cases line with
  | none =>
      show read (blocked ⟨file, rule, none⟩ :: rest) = _
      rw [read.eq_def]
      dsimp only
      rw [hblocked]
  | some found =>
      show read (numbered found :: blocked ⟨file, rule, some found⟩ :: rest) = _
      rw [read, readBlocked_numbered, readNumbered_numbered, hblocked]

theorem read_flatMap_lines {notices : List Notice} (h : ∀ notice ∈ notices, notice.Readable) :
    read (notices.flatMap lines) = some notices := by
  induction notices with
  | nil => rfl
  | cons notice notices ih =>
      obtain ⟨hnotice, hnotices⟩ := List.forall_mem_cons.mp h
      rw [List.flatMap_cons, read_lines hnotice, ih hnotices, Option.map_some]

/-- A text that consists of the lines of notices is read as these notices. -/
theorem readText_of_lines {text : String} {notices : List Notice}
    (htext : text.toList = (notices.flatMap lines).flatMap (· ++ ['\n'])) (h : ∀ notice ∈ notices, notice.Readable) :
    readText text = some notices := by
  have hlines : ∀ line ∈ notices.flatMap lines, '\n' ∉ line := by
    intro line hline
    obtain ⟨notice, hnotice, hmem⟩ := List.mem_flatMap.mp hline
    exact feed_not_mem_lines (h notice hnotice) line hmem
  have hempty : Text.dropEmptyLast (Text.pieces '\n' []) = [] := by decide
  have hpieces := Text.pieces_flatMap_concat hlines []
  rw [List.append_nil, ← htext] at hpieces
  rw [readText, hpieces, Text.dropEmptyLast_append _ (Text.pieces_ne_nil '\n' []), hempty, List.append_nil,
    read_flatMap_lines h]

end Notice

/-- What is shown of a violation is its lines. -/
theorem Violation.toList_spelled (violation : Violation) :
    violation.spelled.toList = violation.notice.lines.flatMap (· ++ ['\n']) := by
  have hend : "\n".toList = ['\n'] := by decide
  have hcolon : ":".toList = [':'] := by decide
  unfold spelled notice Notice.lines
  cases violation.line with
  | none =>
      dsimp only [Option.map_none, Notice.blocked]
      simp only [String.toList_append, String.toList_empty, hend, List.flatMap_cons, List.flatMap_nil]
      -- The words stand for themselves: only the order of the parts counts.
      generalize "  BLOCKED: ".toList = mark
      generalize " in ".toList = word
      simp
  | some number =>
      dsimp only [Option.map_some, Notice.blocked, Notice.numbered]
      simp only [String.toList_append, hend, hcolon, List.flatMap_cons, List.flatMap_nil]
      generalize "  BLOCKED: ".toList = mark
      generalize " in ".toList = word
      simp

namespace Scan

variable {rules : List Rule} {tree : FileTree} {base : Option Path} {conditions : Conditions} {listed : List String}
  {findings : Findings}

theorem examine_of_settled {file : String} {verdict : Verdict}
    (h : settled rules tree base conditions file = .ok verdict) :
    examine rules tree base file conditions.naming = .ok verdict := by
  unfold settled at h
  cases hexamine : examine rules tree base file conditions.naming with
  | error fault =>
      rw [hexamine] at h
      cases h
  | ok found =>
      rw [hexamine] at h
      change settle conditions.stamp found = .ok verdict at h
      unfold settle at h
      split at h
      · split at h
        · cases h
        · exact h
      · exact h

/-- What is found in a file are violations in some content of it. -/
theorem exists_content_of_examine {naming : Encoding} {file : String} {violations : List Violation}
    (h : examine rules tree base file naming = .ok (.read violations)) :
    ∃ content, violations = PreMerge.violations rules content file := by
  unfold examine at h
  split at h
  · cases h
  · split at h
    · cases h
      exact ⟨_, rfl⟩
    · split at h <;> cases h

/-- What is shown is what is kept, and all of it was found in one of the listed files. -/
structure Told (rules : List Rule) (listed : List String) (findings : Findings) : Prop where
  shown : findings.shown = findings.violations.map Violation.spelled
  found : ∀ violation ∈ findings.violations, ∃ file ∈ listed, ∃ content,
    violation ∈ PreMerge.violations rules content file

theorem Told.nil : Told rules listed {} :=
  ⟨rfl, fun _ h => absurd h List.not_mem_nil⟩

theorem Told.mono (h : Told rules listed findings) {others : List String} (hothers : ∀ file ∈ listed, file ∈ others) :
    Told rules others findings := by
  refine ⟨h.shown, fun violation hviolation => ?_⟩
  obtain ⟨file, hfile, hfound⟩ := h.found violation hviolation
  exact ⟨file, hothers file hfile, hfound⟩

theorem Told.both {second : Findings} (h : Told rules listed findings) (k : Told rules listed second) :
    Told rules listed (both findings second) := by
  constructor
  · rw [Scan.both, h.shown, k.shown, List.map_append]
  · intro violation hviolation
    exact (List.mem_append.mp hviolation).elim (h.found violation) (k.found violation)

theorem told_singleton {file : String}
    (hshown : (scan rules tree base [file] conditions).2 = none ∨ ∀ c, conditions.output.lacks c = false) :
    Told rules [file] (scan rules tree base [file] conditions).1 := by
  cases hsettled : settled rules tree base conditions file with
  | error fault =>
      rw [scan_singleton_of_error hsettled]
      exact .nil
  | ok verdict =>
      have hwrite : conditions.output.write verdict.notices = (verdict.notices, none) := by
        rcases hshown with hstop | hfull
        · exact write_of_complete hsettled hstop
        · exact Encoding.write_of_taken fun text _ => Encoding.fault?_of_full hfull text
      rw [scan_singleton_of_ok hsettled hwrite]
      cases verdict with
      | exempt => exact ⟨rfl, nofun⟩
      | unreadable why => exact ⟨rfl, nofun⟩
      | read violations =>
          obtain ⟨content, rfl⟩ := exists_content_of_examine (examine_of_settled hsettled)
          constructor
          · simp [Findings.add, Violation.announcement_eq]
          · exact fun violation hviolation => ⟨file, List.mem_singleton_self file, content, hviolation⟩

/-- A scan tells what is shown, if it comes to its end or the output takes every text. -/
theorem scan_told {files : List String}
    (hshown : (scan rules tree base files conditions).2 = none ∨ ∀ c, conditions.output.lacks c = false) :
    Told rules files (scan rules tree base files conditions).1 := by
  induction files with
  | nil => exact .nil
  | cons file rest ih =>
      have hfirst : Told rules [file] (scan rules tree base [file] conditions).1 := by
        refine told_singleton (hshown.imp_left fun hstop => ?_)
        exact scan_stop_eq_none_iff.mp hstop file List.mem_cons_self
      have hrest : Told rules rest (scan rules tree base rest conditions).1 := by
        refine ih (hshown.imp_left fun hstop => ?_)
        rw [scan_stop_eq_none_iff] at hstop ⊢
        exact (List.forall_mem_cons.mp hstop).2
      have hwithin : ∀ other ∈ [file], other ∈ file :: rest := List.forall_mem_singleton.mpr List.mem_cons_self
      have hfirst' := hfirst.mono hwithin
      rw [scan_cons]
      split
      · next found hscan =>
        rw [hscan] at hfirst'
        exact hfirst'.both (hrest.mono fun _ => List.mem_cons_of_mem file)
      · next found fault hscan =>
        rwa [hscan] at hfirst'

theorem told_apart_of_mem_standard : ∀ rule ∈ Rule.standard,
    '\n' ∉ rule.name.toList ∧ ¬ " in ".toList <:+: rule.name.toList ++ " in ".toList.dropLast := by
  decide

theorem readable_of_mem_violations {content : List Char} {file : String} (hfile : '\n' ∉ file.toList)
    {violation : Violation} (h : violation ∈ PreMerge.violations Rule.standard content file) :
    violation.notice.Readable := by
  obtain ⟨rule, hrule, hname⟩ := Rule.exists_rule_of_mem_violations h
  refine ⟨?_, ?_, ?_⟩
  · show '\n' ∉ violation.file.toList
    rw [Rule.file_of_mem_violations h]
    exact hfile
  · show '\n' ∉ violation.rule.toList ∧ ¬ " in ".toList <:+: violation.rule.toList ++ " in ".toList.dropLast
    rw [hname]
    exact told_apart_of_mem_standard rule hrule
  · rintro ⟨number, text⟩ hline
    obtain ⟨n, hnumber, hpair⟩ := Option.map_eq_some_iff.mp hline
    obtain ⟨rfl, rfl⟩ := Prod.mk.inj hpair
    obtain ⟨line, -, hphysical, hsnippet⟩ := Rule.exists_line_of_mem_violations h hnumber
    obtain ⟨-, -, -, hfeed, -⟩ := Text.exists_around_line hphysical
    rw [hsnippet, String.toList_ofList]
    exact hfeed

theorem Told.toList_echo (h : Told rules listed findings) :
    findings.echo.toList = ((findings.violations.map Violation.notice).flatMap Notice.lines).flatMap (· ++ ['\n']) := by
  rw [Findings.echo, String.toList_join, h.shown, List.flatMap_map, List.flatMap_map, List.flatMap_assoc]
  exact List.flatMap_congr fun violation _ => violation.toList_spelled

/-- What is shown is read back as what is kept. -/
theorem Told.readText_echo (h : Told Rule.standard listed findings) (hlisted : ∀ file ∈ listed, '\n' ∉ file.toList) :
    Notice.readText findings.echo = some (findings.violations.map Violation.notice) := by
  apply Notice.readText_of_lines h.toList_echo
  intro notice hnotice
  obtain ⟨violation, hviolation, rfl⟩ := List.mem_map.mp hnotice
  obtain ⟨file, hfile, content, hfound⟩ := h.found violation hviolation
  exact readable_of_mem_violations (hlisted file hfile) hfound

/-- The text that a scan shows is read back as the violations that it keeps, in order: with file and rule, and where
there is a line with number and text. So what two scans show is the same if and only if what they keep is, whatever
the files hold. A scan may be stopped, as long as the output is not what stops it. -/
theorem echo_read_back {tree : FileTree} {base : Option Path} {files : List String} {conditions : Conditions}
    (hfiles : ∀ file ∈ files, '\n' ∉ file.toList)
    (hshown : (scan Rule.standard tree base files conditions).2 = none ∨ ∀ c, conditions.output.lacks c = false) :
    let findings := (scan Rule.standard tree base files conditions).1
    Notice.readText findings.echo = some (findings.violations.map Violation.notice) ∧
    ∀ (others : FileTree) (directory : Option Path) (paths : List String) (circumstances : Conditions),
      (∀ path ∈ paths, '\n' ∉ path.toList) →
      ((scan Rule.standard others directory paths circumstances).2 = none ∨
        ∀ c, circumstances.output.lacks c = false) →
      ((scan Rule.standard others directory paths circumstances).1.echo = findings.echo ↔
        (scan Rule.standard others directory paths circumstances).1.violations.map Violation.notice =
          findings.violations.map Violation.notice) := by
  intro findings
  have h : Told Rule.standard files findings := scan_told hshown
  have hread := h.readText_echo hfiles
  refine ⟨hread, ?_⟩
  intro others directory paths circumstances hpaths hothers
  have k := scan_told hothers
  constructor
  · intro hecho
    rw [← Option.some_inj, ← k.readText_echo hpaths, ← hread, hecho]
  · intro hnotices
    apply String.toList_injective
    rw [k.toList_echo, h.toList_echo, hnotices]

/-- The lines of a file look like those that are shown of another file, and its name like a rule in a file. -/
theorem echo_read_back_of_forged_lines :
    let content := "7:x as any\r\n  BLOCKED: 'as any' in b.ts\ncatch(e){}"
    let tree : FileTree := ⟨.directory [("c in d", .ofBytes (content.toList.map (·.toNat.toUInt8)))], [], Path.isAmong []⟩
    let findings := (scan Rule.standard tree none ["c in d"]).1
    findings.echo = "1:7:x as any\n  BLOCKED: 'as any' in c in d\n" ++
      "2:  BLOCKED: 'as any' in b.ts\n  BLOCKED: 'as any' in c in d\n" ++
      "  BLOCKED: Empty catch block in c in d\n" ∧
    Notice.readText findings.echo = some [⟨"c in d", "'as any'", some (1, "7:x as any")⟩,
      ⟨"c in d", "'as any'", some (2, "  BLOCKED: 'as any' in b.ts")⟩, ⟨"c in d", "Empty catch block", none⟩] := by
  intro content tree findings
  obtain ⟨hread, -⟩ := @echo_read_back tree none ["c in d"] {} (by decide +kernel) (.inr fun _ => rfl)
  refine ⟨?_, hread.trans ?_⟩
  · decide +kernel
  · decide +kernel

end Scan

end PreMerge
