import Mathlib.Data.List.Basic
import Mathlib.Data.Prod.Basic
import PreMerge.Proofs.Rule.Search
import PreMerge.Rule.Violation

/-! What is reported line by line. A rule on lines reports a line if and only if its construct occurs there, with
the number of the line and only once. The violations of several rules are those of one rule after the other,
so each rule finds its own by its name (`filter_violations`), and they come in the order of the rules
(`line_rules_report_lines`). -/

namespace PreMerge.Rule

/-- The lines with a match are those of all the numbered lines that have one. -/
theorem linesWith_eq (matcher : Matcher) (number : Nat) (lines : List (List Char)) :
    linesWith matcher number lines =
      ((lines.zipIdx number).filter fun found => !(matcher found.1).isEmpty).map Prod.swap := by
  induction lines generalizing number with
  | nil => rfl
  | cons line rest ih =>
      rw [linesWith, List.zipIdx_cons, List.filter_cons, ih]
      cases (matcher line).isEmpty with
      | true => rfl
      | false => rfl

theorem mem_linesWith_iff {matcher : Matcher} {number n : Nat} {lines : List (List Char)} {line : List Char} :
    (n, line) ∈ linesWith matcher number lines ↔
      number ≤ n ∧ lines[n - number]? = some line ∧ matcher line ≠ [] := by
  rw [linesWith_eq, ← Prod.swap_prod_mk, List.mem_map_of_injective Prod.swap_injective, List.mem_filter,
    List.mk_mem_zipIdx_iff_le_and_getElem?_sub, and_assoc, Bool.not_eq_true', ne_eq, ← List.isEmpty_iff,
    Bool.not_eq_true]

theorem linesWith_pairwise (matcher : Matcher) (number : Nat) (lines : List (List Char)) :
    (linesWith matcher number lines).Pairwise fun found later => found.1 < later.1 := by
  have hnumbered : (lines.zipIdx number).Pairwise fun found later => found.2 < later.2 := by
    rw [← List.pairwise_map, List.zipIdx_map_snd]
    exact List.pairwise_lt_range'
  rw [linesWith_eq, List.pairwise_map]
  exact hnumbered.filter _

variable {rules : List Rule} {rule : Rule} {content : List Char} {file : String} {violation : Violation}

theorem rule_of_mem_violations (h : violation ∈ rule.violations content file) : violation.rule = rule.name := by
  unfold violations at h
  split at h
  · obtain ⟨found, -, rfl⟩ := List.mem_map.mp h
    rfl
  · obtain ⟨span, -, rfl⟩ := List.mem_map.mp h
    rfl

theorem exists_rule_of_mem_violations (h : violation ∈ PreMerge.violations rules content file) :
    ∃ rule ∈ rules, violation.rule = rule.name := by
  obtain ⟨rule, hrule, hviolation⟩ := List.mem_flatMap.mp h
  exact ⟨rule, hrule, rule_of_mem_violations hviolation⟩

theorem file_of_mem_violations (h : violation ∈ PreMerge.violations rules content file) : violation.file = file := by
  obtain ⟨rule, -, hrule⟩ := List.mem_flatMap.mp h
  unfold violations at hrule
  split at hrule
  · obtain ⟨found, -, rfl⟩ := List.mem_map.mp hrule
    rfl
  · obtain ⟨span, -, rfl⟩ := List.mem_map.mp hrule
    rfl

/-- A violation with a line shows that physical line. -/
theorem exists_line_of_mem_violations (h : violation ∈ PreMerge.violations rules content file) {number : Nat}
    (hnumber : violation.line = some number) :
    ∃ line, 0 < number ∧ (Text.physicalLines content)[number - 1]? = some line ∧
      violation.snippet = String.ofList line := by
  obtain ⟨rule, -, hrule⟩ := List.mem_flatMap.mp h
  unfold violations at hrule
  split at hrule
  · obtain ⟨⟨n, line⟩, hfound, rfl⟩ := List.mem_map.mp hrule
    obtain rfl := Option.some_inj.mp hnumber
    obtain ⟨hpos, hline, -⟩ := mem_linesWith_iff.mp hfound
    exact ⟨line, hpos, hline, rfl⟩
  · obtain ⟨span, -, rfl⟩ := List.mem_map.mp hrule
    cases hnumber

/-- Rules with names of their own find their violations among those of all. -/
theorem filter_violations (hnames : (rules.map (·.name)).Nodup) (hrule : rule ∈ rules) (content : List Char)
    (file : String) :
    (PreMerge.violations rules content file).filter (·.rule = rule.name) = rule.violations content file := by
  have hown : (rule.violations content file).filter (·.rule = rule.name) = rule.violations content file :=
    List.filter_eq_self.mpr fun violation h => decide_eq_true (rule_of_mem_violations h)
  induction rules with
  | nil => cases hrule
  | cons first rest ih =>
      rw [List.map_cons, List.nodup_cons] at hnames
      obtain ⟨hfirst, hnames⟩ := hnames
      have hcons : PreMerge.violations (first :: rest) content file =
          first.violations content file ++ PreMerge.violations rest content file := List.flatMap_cons
      rw [hcons, List.filter_append]
      rcases List.mem_cons.mp hrule with rfl | hrest
      · have hothers : (PreMerge.violations rest content file).filter (·.rule = rule.name) = [] := by
          refine List.filter_eq_nil_iff.mpr fun violation h hsame => hfirst ?_
          obtain ⟨other, hother, hname⟩ := exists_rule_of_mem_violations h
          rw [← of_decide_eq_true hsame, hname]
          exact List.mem_map_of_mem hother
        rw [hown, hothers, List.append_nil]
      · have hothers : (first.violations content file).filter (·.rule = rule.name) = [] := by
          refine List.filter_eq_nil_iff.mpr fun violation h hsame => hfirst ?_
          rw [← rule_of_mem_violations h, of_decide_eq_true hsame]
          exact List.mem_map_of_mem hrest
        rw [hothers, List.nil_append, ih hnames hrest]

/-- The violations of rules come in the order of the rules. -/
theorem violations_pairwise {place : String → Nat}
    (hrules : rules.Pairwise fun rule later => place rule.name ≤ place later.name) (content : List Char)
    (file : String) : (PreMerge.violations rules content file).Pairwise fun violation later =>
      place violation.rule ≤ place later.rule := by
  refine List.pairwise_flatMap.mpr ⟨?_, ?_⟩
  · intro rule _
    refine List.pairwise_of_forall_mem_list fun violation h later k => ?_
    rw [rule_of_mem_violations h, rule_of_mem_violations k]
  · refine hrules.imp ?_
    intro rule later hle violation h other k
    rw [rule_of_mem_violations h, rule_of_mem_violations k]
    exact hle

theorem violations_of_line (hscope : rule.scope = .line) (content : List Char) (file : String) :
    rule.violations content file = (linesWith rule.matcher 1 (Text.physicalLines content)).map fun found =>
      ⟨file, rule.name, some found.1, String.ofList found.2⟩ := by
  obtain ⟨name, matcher, scope⟩ := rule
  obtain rfl : scope = .line := hscope
  rfl

/-- Where a rule stands among the rules that every merge is held to. -/
def position (name : String) : Nat :=
  (standard.map (·.name)).idxOf name

/-- A rule on lines reports just the physical lines that its construct occurs in, each once and from the top, by
number and text. Among the violations of all rules they are found by the name of the rule, and all these come
rule by rule. -/
theorem line_rules_report_lines {name : String} {construct : Construct} (hrule : against name construct ∈ standard)
    (content : List Char) (file : String) :
    let found := (against name construct).violations content file
    (∀ violation, violation ∈ found ↔ ∃ number line,
      violation = ⟨file, name, some number, String.ofList line⟩ ∧ 0 < number ∧
        (Text.physicalLines content)[number - 1]? = some line ∧ ∃ span, construct.Occurs line span) ∧
    (found.Pairwise fun violation later => ∃ m n, violation.line = some m ∧ later.line = some n ∧ m < n) ∧
    (PreMerge.violations standard content file).filter (·.rule = name) = found ∧
    ((PreMerge.violations standard content file).Pairwise fun violation later =>
      position violation.rule ≤ position later.rule) ∧
    standard.filter (·.scope = .line) =
      [against "'as any'" .castToAny,
        against "'@ts-ignore' or '@ts-expect-error'" .checkerDirective,
        against "'console.log'" .consoleMessage,
        against "Native dialog (window.alert/confirm)" .nativeDialog] := by
  intro found
  have hviolations : found = _ := violations_of_line rfl content file
  refine ⟨?_, ?_, filter_violations (by decide) hrule content file, ?_, rfl⟩
  · intro violation
    rw [hviolations, List.mem_map]
    constructor
    · rintro ⟨⟨number, line⟩, hfound, rfl⟩
      obtain ⟨hpos, hline, hmatch⟩ := mem_linesWith_iff.mp hfound
      exact ⟨number, line, rfl, hpos, hline, Construct.spans_ne_nil_iff.mp hmatch⟩
    · rintro ⟨number, line, rfl, hpos, hline, hoccurs⟩
      exact ⟨(number, line), mem_linesWith_iff.mpr ⟨hpos, hline, Construct.spans_ne_nil_iff.mpr hoccurs⟩, rfl⟩
  · rw [hviolations, List.pairwise_map]
    refine (linesWith_pairwise construct.spans 1 (Text.physicalLines content)).imp ?_
    intro found later hlt
    exact ⟨found.1, later.1, rfl, rfl, hlt⟩
  · exact violations_pairwise (by decide) content file

/-- Two attempts fail late, one of them on the line of the third. -/
theorem line_rules_report_lines_of_late_failures :
    let rule := against "'as any'" .castToAny
    let content := "as anyx\nas as\u3000any".toList
    let violation : Violation := ⟨"a.ts", "'as any'", some 2, "as as\u3000any"⟩
    violation ∈ rule.violations content "a.ts" ∧ violation ∈ PreMerge.violations standard content "a.ts" := by
  intro rule content violation
  obtain ⟨hmem, -, hall, -, -⟩ :=
    @line_rules_report_lines "'as any'" .castToAny List.mem_cons_self content "a.ts"
  have hoccurs : Construct.castToAny.Occurs "as as\u3000any".toList ⟨3, "as\u3000any".toList⟩ := by
    refine ⟨"as ".toList, [], by decide +kernel, by decide +kernel, ?_, fun _ => by decide +kernel⟩
    exact ⟨['\u3000'], by decide, List.forall_mem_singleton.mpr (by decide), by decide +kernel⟩
  have hreported : violation ∈ rule.violations content "a.ts" :=
    (hmem violation).mpr ⟨2, "as as\u3000any".toList, by decide +kernel, by decide, by decide +kernel, _, hoccurs⟩
  refine ⟨hreported, ?_⟩
  rw [← hall] at hreported
  exact List.mem_of_mem_filter hreported

end PreMerge.Rule
