import PreMerge.Proofs.Rule.Ends
import PreMerge.Proofs.Rule.Lines

/-! One matcher in two scopes: held against each line by itself, and against the whole file. A line ends where no word
goes on, so what occurs in a line occurs in the file, and what is found in the file and lies in one line
(`Span.LiesIn`) occurs in that line (`exists_occurs_in_line_iff`). A place lies in one line only
(`Span.LiesIn.number_eq`), so lines are reported no more often than matches (`line_scope_within_whole_file`). -/

namespace PreMerge

namespace Text

theorem exists_line_end (text : List Char) :
    ∃ line after, text = line ++ after ∧ '\n' ∉ line ∧ (after = [] ∨ after.head? = some '\n') := by
  by_cases hfeed : '\n' ∈ text
  · obtain ⟨line, after, rfl, hline⟩ := List.eq_append_cons_of_mem hfeed
    exact ⟨line, _, rfl, hline, .inr rfl⟩
  · exact ⟨text, [], (List.append_nil _).symm, hfeed, .inl rfl⟩

theorem exists_line_start (text : List Char) :
    ∃ before line, text = before ++ line ∧ '\n' ∉ line ∧ (before = [] ∨ before.getLast? = some '\n') := by
  obtain ⟨line, after, htext, hline, hafter⟩ := exists_line_end text.reverse
  refine ⟨after.reverse, line.reverse, ?_, by simpa using hline, by simpa using hafter⟩
  rw [← List.reverse_append, ← htext, List.reverse_reverse]

theorem dropReturn_append {line : List Char} (h : line.getLast? ≠ some '\r') (more : List Char) :
    dropReturn (line ++ more) = line ++ dropReturn more := by
  rcases List.eq_nil_or_concat' more with rfl | ⟨front, c, rfl⟩
  · rw [List.append_nil, dropReturn_of_ne h]
    exact (List.append_nil line).symm
  · rw [← List.append_assoc]
    by_cases hreturn : c = '\r'
    · rw [hreturn, dropReturn_concat, dropReturn_concat]
    · have hkept : ∀ text : List Char, dropReturn (text ++ [c]) = text ++ [c] := by
        intro text
        apply dropReturn_of_ne
        rw [List.getLast?_concat]
        simpa using hreturn
      rw [hkept, hkept, List.append_assoc]

/-- A part of a text without line feeds, and without a carriage return at its end, is in one of the lines. -/
theorem exists_line_around {part : List Char} (hne : part ≠ []) (hfeed : '\n' ∉ part)
    (hreturn : part.getLast? ≠ some '\r') (front back : List Char) :
    ∃ before lead tail after, front = before ++ lead ∧ back = tail ++ after ∧
      (before = [] ∨ before.getLast? = some '\n') ∧
      (physicalLines (front ++ (part ++ back)))[before.count '\n']? = some (lead ++ (part ++ tail)) := by
  obtain ⟨before, lead, rfl, hlead, hbefore⟩ := exists_line_start front
  obtain ⟨tail, after, rfl, htail, hafter⟩ := exists_line_end back
  obtain ⟨last, hlast⟩ : ∃ last, tail = dropReturn tail ++ last := by
    rcases dropReturn_cases tail with hkept | hdropped
    · exact ⟨[], by rwa [List.append_nil]⟩
    · exact ⟨_, hdropped⟩
  refine ⟨before, lead, dropReturn tail, last ++ after, rfl, by rw [← List.append_assoc, ← hlast], hbefore, ?_⟩
  have hpiece : '\n' ∉ lead ++ part ++ tail := by simp [hlead, hfeed, htail]
  have hline := getElem?_dropEmptyLast (getElem?_pieces hpiece hbefore hafter) (by simp [hne])
  have hcontent : before ++ lead ++ (part ++ (tail ++ after)) = before ++ (lead ++ part ++ tail ++ after) := by
    simp only [List.append_assoc]
  have hkept : (lead ++ part).getLast? ≠ some '\r' := by
    cases hend : part.getLast? with
    | none => exact absurd (List.getLast?_eq_none_iff.mp hend) hne
    | some c => rwa [List.getLast?_append, hend, Option.some_or, ← hend]
  rw [hcontent, physicalLines, List.getElem?_map, hline, Option.map_some, dropReturn_append hkept, List.append_assoc]

end Text

/-- A span lies in a physical line, given by its number. -/
def Span.LiesIn (content : List Char) (number : Nat) (span : Span) : Prop :=
  ∃ before line after, content = before ++ (line ++ after) ∧ before.count '\n' + 1 = number ∧
    (before = [] ∨ before.getLast? = some '\n') ∧ (Text.physicalLines content)[number - 1]? = some line ∧
    before.length ≤ span.start ∧ span.stop ≤ before.length + line.length

/-- The number of the line that a span lies in counts the line feeds before the end of the span. -/
theorem Span.LiesIn.number_eq {content : List Char} {number : Nat} {span : Span} (h : span.LiesIn content number) :
    (content.take span.stop).count '\n' + 1 = number := by
  obtain ⟨before, line, after, hcontent, hnumber, -, hline, hstart, hstop⟩ := h
  obtain ⟨-, -, -, hfeed, -⟩ := Text.exists_around_line hline
  have hle : before.length ≤ span.stop := hstart.trans (Nat.le_add_right ..)
  have hnone : (line.take (span.stop - before.length)).count '\n' = 0 :=
    List.count_eq_zero.mpr fun hmem => hfeed (List.mem_of_mem_take hmem)
  rw [hcontent, List.take_append, List.take_of_length_le hle, List.take_append_of_le_length (by omega),
    List.count_append, hnone, Nat.add_zero, hnumber]

namespace Construct

open Text (physicalLines endsWord)

variable {construct : Construct} {content : List Char} {number : Nat}

/-- A line holds a construct if and only if the construct occurs in the whole text within that line. -/
theorem exists_occurs_in_line_iff :
    (0 < number ∧ ∃ line, (physicalLines content)[number - 1]? = some line ∧ ∃ span, construct.Occurs line span) ↔
      ∃ span, construct.Occurs content span ∧ span.LiesIn content number := by
  constructor
  · rintro ⟨hpos, line, hline, span, hoccurs⟩
    obtain ⟨before, after, hcontent, -, hcount, hbefore, hafter⟩ := Text.exists_around_line hline
    have hstart : endsWord before.getLast? = true := by
      apply Text.endsWord_of_line_end
      rcases hbefore with rfl | hlast
      · exact .inl rfl
      · exact .inr (.inl hlast)
    have hend : endsWord after.head? = true := by
      apply Text.endsWord_of_line_end
      rcases hafter with rfl | hhead
      · exact .inl rfl
      · exact .inr hhead
    have hwide := hoccurs.widen hstart hend
    rw [← hcontent] at hwide
    refine ⟨_, hwide, before, line, after, hcontent, by omega, hbefore, hline, Nat.le_add_right .., ?_⟩
    have hstop := hoccurs.stop_le
    rw [Span.stop] at hstop ⊢
    dsimp only
    omega
  · rintro ⟨span, hoccurs, before, line, after, hcontent, hnumber, -, hline, hstart, hstop⟩
    rw [hcontent] at hoccurs
    exact ⟨by omega, line, hline, _, hoccurs.narrow hstart hstop⟩

/-- What holds no line feed, and no carriage return at its end, lies in a line. -/
theorem Occurs.exists_line {span : Span} (h : construct.Occurs content span) (hfeed : '\n' ∉ span.text)
    (hreturn : span.text.getLast? ≠ some '\r') : ∃ number, span.LiesIn content number := by
  obtain ⟨front, back, rfl, hstart, hreads, -⟩ := h
  obtain ⟨before, lead, tail, after, rfl, rfl, hbefore, hline⟩ :=
    Text.exists_line_around hreads.ne_nil hfeed hreturn front back
  rw [List.length_append] at hstart
  refine ⟨_, before, _, after, ?_, rfl, hbefore, hline, by omega, ?_⟩
  · simp only [List.append_assoc]
  · rw [Span.stop, List.length_append, List.length_append]
    omega

/-- A construct that is neither a cast nor a handler has no line end in it. -/
theorem Reads.no_line_end (hcast : construct ≠ .castToAny) (hhandler : construct ≠ .emptyHandler) {word : List Char}
    (h : construct.Reads word) : '\n' ∉ word ∧ word.getLast? ≠ some '\r' := by
  cases construct with
  | castToAny => exact absurd rfl hcast
  | checkerDirective => rcases h with rfl | rfl <;> decide
  | consoleMessage =>
      obtain rfl : word = _ := h
      decide
  | nativeDialog => rcases h with rfl | rfl <;> decide
  | emptyHandler => exact absurd rfl hhandler

end Construct

namespace Rule

open Text (physicalLines)

variable {name : String} {construct : Construct} {scope : Scope} {content : List Char} {file : String} {number : Nat}

theorem exists_violation_at_iff :
    (∃ violation ∈ (against name construct .line).violations content file, violation.line = some number) ↔
      ∃ span, construct.Occurs content span ∧ span.LiesIn content number := by
  rw [violations_of_line rfl, ← Construct.exists_occurs_in_line_iff]
  constructor
  · rintro ⟨_, hmem, hnumber⟩
    obtain ⟨⟨n, line⟩, hfound, rfl⟩ := List.mem_map.mp hmem
    obtain rfl := Option.some_inj.mp hnumber
    obtain ⟨hpos, hline, hmatch⟩ := mem_linesWith_iff.mp hfound
    exact ⟨hpos, line, hline, Construct.spans_ne_nil_iff.mp hmatch⟩
  · rintro ⟨hpos, line, hline, hoccurs⟩
    refine ⟨_, List.mem_map_of_mem (mem_linesWith_iff.mpr ⟨hpos, hline, ?_⟩), rfl⟩
    exact Construct.spans_ne_nil_iff.mpr hoccurs

/-- The lines that a rule reports have different numbers, one for each. -/
theorem exists_numbers {rule : Rule} (hscope : rule.scope = .line) (content : List Char) (file : String) :
    ∃ numbers : List Nat, (rule.violations content file).map (·.line) = numbers.map some ∧
      numbers.Pairwise (· < ·) := by
  refine ⟨(linesWith rule.matcher 1 (physicalLines content)).map Prod.fst, ?_, ?_⟩
  · rw [violations_of_line hscope, List.map_map, List.map_map]
    rfl
  · rw [List.pairwise_map]
    exact linesWith_pairwise ..

/-- Held against each line, a rule reports no more than held against the whole file. -/
theorem length_byLine_le (name : String) (construct : Construct) (content : List Char) (file : String) :
    ((against name construct .line).violations content file).length ≤
      ((against name construct .wholeFile).violations content file).length := by
  obtain ⟨numbers, hnumbers, hpairwise⟩ :=
    exists_numbers (show (against name construct .line).scope = .line from rfl) content file
  have hlength := congrArg List.length hnumbers
  have hwhole : (against name construct .wholeFile).violations content file =
      (construct.spans content).map fun span => ⟨file, name, none, String.ofList span.text⟩ := rfl
  rw [List.length_map, List.length_map] at hlength
  rw [hlength, hwhole, List.length_map]
  refine Construct.length_le_of_values (fun span => (content.take span.stop).count '\n' + 1) hpairwise ?_
  intro number hnumber
  have hline : some number ∈ ((against name construct .line).violations content file).map (·.line) := by
    rw [hnumbers]
    exact List.mem_map_of_mem hnumber
  obtain ⟨span, hoccurs, hlies⟩ := exists_violation_at_iff.mp (List.mem_map.mp hline)
  obtain ⟨found, hfound, hstop⟩ := Construct.exists_mem_spans_stop hoccurs
  exact ⟨found, hfound, by rw [hstop, hlies.number_eq]⟩

/-- The handlers are not searched line by line. -/
theorem ne_emptyHandler_of_line (hrule : against name construct .line ∈ standard) : construct ≠ .emptyHandler := by
  rintro rfl
  -- the text of a handler is a match for no other matcher of a rule on lines
  have hmatches : ∀ rule ∈ standard, rule.scope = .line → rule.matcher "catch()\x7b\x7d".toList = [] := by
    decide
  have hhandler : Construct.emptyHandler.spans "catch()\x7b\x7d".toList ≠ [] := by decide
  exact hhandler (hmatches _ hrule rfl)

/-- A rule on lines reports a line if and only if a match in the whole file lies in it. Other than a cast, a construct
on lines never reaches over a line end, so both scopes agree on whether anything is found. No rule finds more by line
than in the whole file. -/
theorem line_scope_within_whole_file (hrule : against name construct scope ∈ standard) (content : List Char)
    (file : String) :
    let found := construct.spans content
    let byLine := (against name construct .line).violations content file
    let inWhole := (against name construct .wholeFile).violations content file
    inWhole = found.map (fun span => ⟨file, name, none, String.ofList span.text⟩) ∧
    (scope = .line → ∀ number,
      (∃ violation ∈ byLine, violation.line = some number) ↔ ∃ span ∈ found, span.LiesIn content number) ∧
    (scope = .line → construct ≠ .castToAny →
      (∀ span ∈ found, ∃! number, span.LiesIn content number) ∧ (byLine = [] ↔ inWhole = [])) ∧
    byLine.length ≤ inWhole.length := by
  intro found byLine inWhole
  have hlines : scope = .line → ∀ number,
      (∃ violation ∈ byLine, violation.line = some number) ↔ ∃ span ∈ found, span.LiesIn content number := by
    rintro rfl number
    rw [exists_violation_at_iff]
    simp only [found, Construct.mem_spans_iff (ne_emptyHandler_of_line hrule)]
  refine ⟨rfl, hlines, ?_, length_byLine_le name construct content file⟩
  rintro rfl hcast
  have hwithin : ∀ span ∈ found, ∃ number, span.LiesIn content number := by
    intro span hspan
    have hoccurs := Construct.occurs_of_mem_spans hspan
    have ⟨_, _, _, _, hreads, _⟩ := hoccurs
    obtain ⟨hfeed, hreturn⟩ := hreads.no_line_end hcast (ne_emptyHandler_of_line hrule)
    exact hoccurs.exists_line hfeed hreturn
  constructor
  · intro span hspan
    obtain ⟨number, hlies⟩ := hwithin span hspan
    exact ⟨number, hlies, fun other hother => hother.number_eq.symm.trans hlies.number_eq⟩
  · constructor
    · intro hnone
      refine List.map_eq_nil_iff.mpr (List.eq_nil_iff_forall_not_mem.mpr ?_)
      intro span hspan
      obtain ⟨number, hlies⟩ := hwithin span hspan
      obtain ⟨violation, hviolation, -⟩ := (hlines rfl number).mpr ⟨span, hspan, hlies⟩
      rw [hnone] at hviolation
      cases hviolation
    · intro hnone
      apply List.eq_nil_of_length_eq_zero
      have hle := length_byLine_le name construct content file
      change byLine.length ≤ inWhole.length at hle
      rw [hnone] at hle
      exact Nat.le_zero.mp hle

/-- A cast over two lines and one within a line: both are matches in the whole file, and one lies in a line. -/
theorem line_scope_within_whole_file_of_split_cast :
    let rule := against "'as any'" .castToAny
    let content := "x as\r\nany as any\r\ny".toList
    (Construct.castToAny.spans content).length = 2 ∧
    (∃ violation ∈ rule.violations content "a.ts", violation.line = some 2) ∧
    ¬ ∃ violation ∈ rule.violations content "a.ts", violation.line = some 1 := by
  intro rule content
  obtain ⟨-, hlines, -, -⟩ :=
    @line_scope_within_whole_file "'as any'" .castToAny .line List.mem_cons_self content "a.ts"
  have hfound : Construct.castToAny.spans content = [⟨2, "as\r\nany".toList⟩, ⟨10, "as any".toList⟩] := by
    decide +kernel
  refine ⟨by rw [hfound]; rfl, ?_, ?_⟩
  · refine (hlines rfl 2).mpr ⟨⟨10, "as any".toList⟩, by rw [hfound]; simp, ?_⟩
    exact ⟨"x as\r\n".toList, "any as any".toList, "\r\ny".toList, by decide +kernel⟩
  · rw [hlines rfl 1, hfound]
    rintro ⟨span, hspan, hlies⟩
    have hnumber := hlies.number_eq
    clear hlies
    revert span
    decide +kernel

end Rule

end PreMerge
