import PreMerge.Proofs.Rule.Ends
import PreMerge.Proofs.Rule.Lines

/-! Two texts, one behind the other with a line feed between them. The lines of the second one follow those of the
first (`physicalLines_joined`), so each line is reported as before, with the number that it has then. In the whole
file an unfinished handler in the first text may swallow the start of one in the second, but every match ends where
one ended before (`exists_mem_spans_of_part`), so none is lost (`length_spans_joined`). -/

namespace PreMerge

/-- A violation as it is reported when further lines are put before: its line has a higher number, and the rest is the
same. -/
def Violation.lowered (lines : Nat) (violation : Violation) : Violation :=
  { violation with line := violation.line.map (· + lines) }

namespace Text

theorem physicalLines_feed (text : List Char) :
    physicalLines (text ++ ['\n']) = (pieces '\n' text).map dropReturn := by
  rw [physicalLines_append]
  exact List.append_nil _

theorem physicalLines_joined (text more : List Char) :
    physicalLines (text ++ '\n' :: more) = physicalLines (text ++ ['\n']) ++ physicalLines more := by
  rw [physicalLines_append, physicalLines_feed]

theorem length_physicalLines_feed (text : List Char) :
    (physicalLines (text ++ ['\n'])).length = text.count '\n' + 1 := by
  rw [physicalLines_feed, List.length_map, length_pieces]

end Text

namespace Rule

open Text (physicalLines)

theorem linesWith_append (matcher : Matcher) (number : Nat) (lines more : List (List Char)) :
    linesWith matcher number (lines ++ more) =
      linesWith matcher number lines ++ linesWith matcher (number + lines.length) more := by
  rw [linesWith_eq, linesWith_eq, linesWith_eq, List.zipIdx_append, List.filter_append, List.map_append]

theorem linesWith_add (matcher : Matcher) (number before : Nat) (lines : List (List Char)) :
    linesWith matcher (number + before) lines =
      (linesWith matcher number lines).map fun found => (found.1 + before, found.2) := by
  induction lines generalizing number with
  | nil => rfl
  | cons line rest ih =>
      rw [linesWith, linesWith, Nat.add_right_comm, ih]
      split <;> rfl

/-- Whether a text ends in a line feed makes no difference to its lines with a match, if an empty line has none. -/
theorem linesWith_feed {matcher : Matcher} (hempty : matcher [] = []) (number : Nat) (text : List Char) :
    linesWith matcher number (physicalLines (text ++ ['\n'])) =
      linesWith matcher number (physicalLines text) := by
  rw [Text.physicalLines_feed, physicalLines, Text.dropEmptyLast]
  split
  · next hlast =>
    -- the line that is left out is empty, and holds nothing
    obtain ⟨front, hfront⟩ := List.getLast?_eq_some_iff.mp hlast
    have hline : (matcher []).isEmpty = true := by
      rw [hempty]
      rfl
    have hnone : ∀ n, linesWith matcher n ([[]].map Text.dropReturn) = [] := by
      intro n
      exact if_pos hline
    rw [hfront, List.dropLast_concat, List.map_append, linesWith_append, hnone, List.append_nil]
  · rfl

theorem violations_joined_of_line {rule : Rule} (hscope : rule.scope = .line) (text more : List Char) (file : String) :
    rule.violations (text ++ '\n' :: more) file =
      rule.violations (text ++ ['\n']) file ++
        (rule.violations more file).map (Violation.lowered (text.count '\n' + 1)) := by
  rw [violations_of_line hscope, violations_of_line hscope, violations_of_line hscope, Text.physicalLines_joined,
    linesWith_append, Text.length_physicalLines_feed, linesWith_add, List.map_append, List.map_map, List.map_map]
  rfl

theorem violations_feed_of_line {rule : Rule} (hscope : rule.scope = .line) (hempty : rule.matcher [] = [])
    (text : List Char) (file : String) :
    rule.violations (text ++ ['\n']) file = rule.violations text file := by
  rw [violations_of_line hscope, violations_of_line hscope, linesWith_feed hempty]

end Rule

namespace Construct

variable {construct : Construct} {span : Span}

theorem exists_mem_spans_of_before {text : List Char} (h : span ∈ construct.spans text) (more : List Char) :
    ∃ found ∈ construct.spans (text ++ '\n' :: more), found.stop = span.stop := by
  have hstart : Text.endsWord ([] : List Char).getLast? = true := rfl
  have hend : Text.endsWord ('\n' :: more).head? = true := Text.endsWord_of_line_end (.inr (.inl rfl))
  have hfound := exists_mem_spans_of_part hstart hend h
  rwa [List.nil_append, List.length_nil, Nat.zero_add] at hfound

theorem exists_mem_spans_of_behind {more : List Char} (h : span ∈ construct.spans more) (text : List Char) :
    ∃ found ∈ construct.spans (text ++ '\n' :: more), found.stop = text.length + 1 + span.stop := by
  have hstart : Text.endsWord (text ++ ['\n']).getLast? = true := by
    rw [List.getLast?_concat]
    exact Text.endsWord_of_line_end (.inr (.inl rfl))
  have hend : Text.endsWord ([] : List Char).head? = true := rfl
  have hfound := exists_mem_spans_of_part hstart hend h
  rwa [List.append_nil, ← List.append_cons, List.length_append, List.length_singleton] at hfound

/-- No match is lost when a text is put before another one. -/
theorem length_spans_joined (construct : Construct) (text more : List Char) :
    (construct.spans text).length + (construct.spans more).length ≤
      (construct.spans (text ++ '\n' :: more)).length := by
  -- the ends of the matches in both texts, where they are then
  have hstops : ((construct.spans text).map Span.stop ++
      (construct.spans more).map fun span => text.length + 1 + span.stop).Pairwise (· < ·) := by
    refine List.pairwise_append.mpr ⟨stops_pairwise construct text, ?_, ?_⟩
    · have hpairwise := stops_pairwise construct more
      rw [List.pairwise_map] at hpairwise ⊢
      exact hpairwise.imp fun hlt => Nat.add_lt_add_left hlt _
    · intro stop hstop later hlater
      obtain ⟨span, hspan, rfl⟩ := List.mem_map.mp hstop
      obtain ⟨other, -, rfl⟩ := List.mem_map.mp hlater
      have hle := (occurs_of_mem_spans hspan).stop_le
      omega
  have hfound : ∀ stop ∈ (construct.spans text).map Span.stop ++
      (construct.spans more).map fun span => text.length + 1 + span.stop,
      ∃ found ∈ construct.spans (text ++ '\n' :: more), found.stop = stop := by
    intro stop hstop
    rcases List.mem_append.mp hstop with hstop | hstop
    · obtain ⟨span, hspan, rfl⟩ := List.mem_map.mp hstop
      exact exists_mem_spans_of_before hspan more
    · obtain ⟨span, hspan, rfl⟩ := List.mem_map.mp hstop
      exact exists_mem_spans_of_behind hspan text
  have hle := length_le_of_values Span.stop hstops hfound
  rwa [List.length_append, List.length_map, List.length_map] at hle

end Construct

namespace Rule

/-- Two texts with a line feed between them break a rule on lines where each of them does, the second one with its
numbers counted on, and the line feed itself makes no difference. In a whole file, no match is lost: each one ends
where a match in both together ends, and there are at least as many of these. -/
theorem violations_joined (name : String) (construct : Construct) (scope : Scope) (text more : List Char)
    (file : String) :
    let rule := against name construct scope
    (scope = .line →
      rule.violations (text ++ '\n' :: more) file =
        rule.violations (text ++ ['\n']) file ++
          (rule.violations more file).map (Violation.lowered (text.count '\n' + 1)) ∧
      rule.violations (text ++ ['\n']) file = rule.violations text file) ∧
    (scope = .wholeFile →
      (rule.violations text file).length + (rule.violations more file).length ≤
        (rule.violations (text ++ '\n' :: more) file).length ∧
      (∀ span ∈ construct.spans text,
        ∃ found ∈ construct.spans (text ++ '\n' :: more), found.stop = span.stop) ∧
      ∀ span ∈ construct.spans more,
        ∃ found ∈ construct.spans (text ++ '\n' :: more), found.stop = text.length + 1 + span.stop) := by
  intro rule
  constructor
  · intro hscope
    exact ⟨violations_joined_of_line hscope text more file, violations_feed_of_line hscope rfl text file⟩
  · rintro rfl
    refine ⟨?_, fun span hspan => Construct.exists_mem_spans_of_before hspan more,
      fun span hspan => Construct.exists_mem_spans_of_behind hspan text⟩
    dsimp only [rule, violations, against]
    rw [List.length_map, List.length_map, List.length_map]
    exact Construct.length_spans_joined construct text more

/-- An unfinished handler before a whole one: the match in both together starts in the first text, and it ends with
the handler in the second. -/
theorem violations_joined_of_unfinished :
    let rule := against "Empty catch block" .emptyHandler .wholeFile
    let text := "catch (\x7b\x7d catch (a".toList
    let more := "catch (b) \x7b \x7d".toList
    1 ≤ (rule.violations (text ++ '\n' :: more) "a.ts").length ∧
    ∃ found ∈ Construct.emptyHandler.spans (text ++ '\n' :: more), found.stop = text.length + 1 + 13 := by
  intro rule text more
  obtain ⟨-, hwhole⟩ := violations_joined "Empty catch block" .emptyHandler .wholeFile text more "a.ts"
  obtain ⟨hlength, -, hbehind⟩ := hwhole rfl
  have hcounts : (rule.violations text "a.ts").length + (rule.violations more "a.ts").length = 1 := by
    decide +kernel
  refine ⟨hcounts ▸ hlength, hbehind ⟨0, more⟩ ?_⟩
  decide +kernel

end Rule

end PreMerge
