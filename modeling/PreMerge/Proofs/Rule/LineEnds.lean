import PreMerge.Proofs.Rule.Lines
import PreMerge.Proofs.Text.Lines

/-! Line ends with a carriage return before each line feed. Lines do not show them (`physicalLines_withReturns`), if
no line end has one already. In a whole file they stand where a handler may have any characters or any blanks,
so they neither make a handler nor break one (`reads_withReturns_iff`), and the handlers that are found
correspond one by one (`texts_withReturns`). So both forms of a text break the same rules in the same lines
(`violations_withReturns`). -/

namespace PreMerge

namespace Text

/-- A text with a carriage return before each line feed. -/
def withReturns (text : List Char) : List Char :=
  text.flatMap fun c => if c = '\n' then ['\r', '\n'] else [c]

theorem withReturns_append (text more : List Char) :
    withReturns (text ++ more) = withReturns text ++ withReturns more :=
  List.flatMap_append

theorem withReturns_feed (text : List Char) : withReturns ('\n' :: text) = '\r' :: '\n' :: withReturns text :=
  rfl

theorem withReturns_cons {c : Char} (h : c ≠ '\n') (text : List Char) :
    withReturns (c :: text) = c :: withReturns text := by
  rw [withReturns, List.flatMap_cons, if_neg h, List.singleton_append, ← withReturns]

theorem withReturns_of_not_mem {text : List Char} (h : '\n' ∉ text) : withReturns text = text := by
  induction text with
  | nil => rfl
  | cons c text ih =>
      rw [List.mem_cons, not_or] at h
      rw [withReturns_cons (Ne.symm h.1), ih h.2]

theorem mem_withReturns_iff {c : Char} {text : List Char} :
    c ∈ withReturns text ↔ c ∈ text ∨ c = '\r' ∧ '\n' ∈ text := by
  induction text with
  | nil => simp [withReturns]
  | cons d text ih =>
      by_cases hfeed : d = '\n'
      · subst hfeed
        rw [withReturns_feed, List.mem_cons, List.mem_cons, ih, List.mem_cons]
        constructor
        · rintro (rfl | rfl | hmem | ⟨rfl, -⟩)
          · exact .inr ⟨rfl, List.mem_cons_self⟩
          · exact .inl (.inl rfl)
          · exact .inl (.inr hmem)
          · exact .inr ⟨rfl, List.mem_cons_self⟩
        · rintro ((rfl | hmem) | ⟨rfl, -⟩)
          · exact .inr (.inl rfl)
          · exact .inr (.inr (.inl hmem))
          · exact .inl rfl
      · rw [withReturns_cons hfeed, List.mem_cons, ih, List.mem_cons, List.mem_cons, or_assoc]
        simp [Ne.symm hfeed]

/-- A kind of characters to which both parts of a line end belong, or neither, is not told from line ends. -/
theorem forall_mem_withReturns {p : Char → Prop} (h : p '\n' → p '\r') {text : List Char} :
    (∀ c ∈ withReturns text, p c) ↔ ∀ c ∈ text, p c := by
  constructor
  · intro hall c hc
    exact hall c (mem_withReturns_iff.mpr (.inl hc))
  · intro hall c hc
    rcases mem_withReturns_iff.mp hc with hc | ⟨rfl, hfeed⟩
    · exact hall c hc
    · exact h (hall '\n' hfeed)

theorem eq_of_withReturns_eq {text plain : List Char} (h : withReturns text = plain) (hplain : '\n' ∉ plain) :
    text = plain := by
  rw [← h]
  apply Eq.symm (withReturns_of_not_mem _)
  intro hmem
  apply hplain
  rw [← h]
  exact mem_withReturns_iff.mpr (.inl hmem)

/-- Where such a text is cut, the text that it comes from can be cut, unless a line end is cut through. -/
theorem exists_cut {text front back : List Char} (h : withReturns text = front ++ back)
    (hwhole : front.getLast? = some '\r' → back.head? ≠ some '\n') :
    ∃ before after, text = before ++ after ∧ withReturns before = front ∧ withReturns after = back := by
  induction text generalizing front with
  | nil =>
      obtain ⟨rfl, rfl⟩ := List.nil_eq_append_iff.mp h
      exact ⟨[], [], rfl, rfl, rfl⟩
  | cons c text ih =>
      cases front with
      | nil => exact ⟨[], c :: text, rfl, rfl, h⟩
      | cons d front =>
          by_cases hfeed : c = '\n'
          · subst hfeed
            rw [withReturns_feed, List.cons_append, List.cons.injEq] at h
            obtain ⟨rfl, hrest⟩ := h
            cases front with
            | nil => exact absurd (by rw [List.nil_append] at hrest; rw [← hrest]; rfl) (hwhole rfl)
            | cons e front =>
                rw [List.cons_append, List.cons.injEq] at hrest
                obtain ⟨rfl, hrest⟩ := hrest
                obtain ⟨before, after, rfl, rfl, hafter⟩ := ih hrest fun hlast => hwhole (by
                  rw [List.getLast?_cons, List.getLast?_cons, hlast]
                  rfl)
                exact ⟨'\n' :: before, after, rfl, withReturns_feed before, hafter⟩
          · rw [withReturns_cons hfeed, List.cons_append, List.cons.injEq] at h
            obtain ⟨rfl, hrest⟩ := h
            obtain ⟨before, after, rfl, rfl, hafter⟩ := ih hrest fun hlast => hwhole (by
              rw [List.getLast?_cons, hlast, Option.getD_some])
            exact ⟨c :: before, after, rfl, withReturns_cons hfeed before, hafter⟩

/-- A character that is no part of a line end stands at the same place in both forms of a text. -/
theorem exists_cut_at (stop : Char) (hreturn : stop ≠ '\r') (hfeed : stop ≠ '\n') {text run rest : List Char}
    (h : withReturns text = run ++ stop :: rest) :
    ∃ before after, text = before ++ stop :: after ∧ withReturns before = run ∧ withReturns after = rest := by
  obtain ⟨before, tail, rfl, hbefore, htail⟩ := exists_cut h fun _ => by simpa using hfeed
  obtain ⟨middle, after, rfl, hmiddle, hafter⟩ :=
    exists_cut (htail.trans List.singleton_append.symm) fun hlast => by simp [hreturn] at hlast
  obtain rfl := eq_of_withReturns_eq hmiddle (by simpa using Ne.symm hfeed)
  exact ⟨before, after, rfl, hbefore, hafter⟩

/-- Lines do not show which form of line ends a text has. -/
theorem physicalLines_withReturns {text : List Char} (h : ¬ ['\r', '\n'] <:+: text) :
    physicalLines (withReturns text) = physicalLines text := by
  induction text using pieces_induction '\n' with
  | whole text hfeed => rw [withReturns_of_not_mem hfeed]
  | cut line rest hline ih =>
      have hrest : ¬ ['\r', '\n'] <:+: rest := by
        intro hpair
        exact h (hpair.trans ((List.suffix_cons '\n' rest).trans (List.suffix_append line _)).isInfix)
      have hend : line.getLast? ≠ some '\r' := by
        intro hlast
        obtain ⟨start, rfl⟩ := List.getLast?_eq_some_iff.mp hlast
        exact h ⟨start, rest, by simp⟩
      calc
        _ = physicalLines ((line ++ ['\r']) ++ '\n' :: withReturns rest) := by
          rw [withReturns_append, withReturns_of_not_mem hline, withReturns_feed, List.append_assoc,
            List.singleton_append]
        _ = line :: physicalLines (withReturns rest) := by
          rw [physicalLines_cons (by simpa using hline), dropReturn_concat]
        _ = dropReturn line :: physicalLines rest := by rw [ih hrest, dropReturn_of_ne hend]
        _ = _ := (physicalLines_cons hline rest).symm

end Text

namespace Construct

open Text (isBlank withReturns withReturns_append withReturns_cons withReturns_feed exists_cut exists_cut_at)

theorem reads_handler_iff {word : List Char} : emptyHandler.Reads word ↔
    ∃ before inside behind body, Blanks before ∧ (∀ c ∈ inside, (c != ')') = true) ∧ Blanks behind ∧ Blanks body ∧
      word = "catch".toList ++ (before ++ '(' :: (inside ++ ')' :: (behind ++ '\x7b' :: (body ++ ['\x7d'])))) := by
  simp only [Reads, List.append_assoc, String.reduceToSingleton, String.toList_singleton, List.singleton_append]

theorem blanks_withReturns_iff {text : List Char} : Blanks (withReturns text) ↔ Blanks text :=
  Text.forall_mem_withReturns (by decide)

/-- Both forms of line ends make the same handlers. -/
theorem reads_withReturns_iff {word : List Char} :
    emptyHandler.Reads (withReturns word) ↔ emptyHandler.Reads word := by
  have hcatch : '\n' ∉ "catch".toList := by decide
  rw [reads_handler_iff, reads_handler_iff]
  constructor
  · rintro ⟨before, inside, behind, body, hbefore, hinside, hbehind, hbody, hword⟩
    obtain ⟨start, word, rfl, hstart, hopened⟩ := exists_cut hword (by simp)
    obtain rfl := Text.eq_of_withReturns_eq hstart hcatch
    obtain ⟨before, word, rfl, rfl, hclosed⟩ := exists_cut_at '(' (by decide) (by decide) hopened
    obtain ⟨inside, word, rfl, rfl, hstarted⟩ := exists_cut_at ')' (by decide) (by decide) hclosed
    obtain ⟨behind, word, rfl, rfl, hended⟩ := exists_cut_at '\x7b' (by decide) (by decide) hstarted
    obtain ⟨body, rest, rfl, rfl, hnothing⟩ := exists_cut_at '\x7d' (by decide) (by decide) hended
    obtain rfl := Text.eq_of_withReturns_eq hnothing List.not_mem_nil
    exact ⟨before, inside, behind, body, blanks_withReturns_iff.mp hbefore,
      (Text.forall_mem_withReturns (by decide)).mp hinside, blanks_withReturns_iff.mp hbehind,
      blanks_withReturns_iff.mp hbody, rfl⟩
  · rintro ⟨before, inside, behind, body, hbefore, hinside, hbehind, hbody, rfl⟩
    refine ⟨withReturns before, withReturns inside, withReturns behind, withReturns body,
      blanks_withReturns_iff.mpr hbefore, (Text.forall_mem_withReturns (by decide)).mpr hinside,
      blanks_withReturns_iff.mpr hbehind, blanks_withReturns_iff.mpr hbody, ?_⟩
    simp only [withReturns_append, Text.withReturns_of_not_mem hcatch, withReturns_cons (show '(' ≠ '\n' by decide),
      withReturns_cons (show ')' ≠ '\n' by decide), withReturns_cons (show '\x7b' ≠ '\n' by decide),
      withReturns_cons (show '\x7d' ≠ '\n' by decide)]
    rfl

section Search

variable {construct : Construct} {start : Nat} {before : Option Char} {text after word : List Char}

theorem spansFrom_skip (construct : Construct) (start : Nat) (before : Option Char) (word after : List Char) :
    construct.spansFrom start before word.length (word ++ after) =
      construct.spansFrom (start + word.length) (word.getLast?.or before) 0 after := by
  induction word generalizing start before with
  | nil => rfl
  | cons c word ih =>
      rw [List.length_cons, List.cons_append, spansFrom, ih, List.getLast?_cons]
      congr 1
      · omega
      · cases word.getLast? <;> rfl

/-- Where a construct stands, the search goes on behind it. -/
theorem spansFrom_of_reads (start : Nat) (hreads : construct.Reads word)
    (hdetached : construct.Detached before after.head?) :
    construct.spansFrom start before 0 (word ++ after) =
      ⟨start, word⟩ :: construct.spansFrom (start + word.length) word.getLast? 0 after := by
  have hlength : construct.length? before (word ++ after) = some word.length :=
    length?_eq_some_iff.mpr ⟨word, after, rfl, rfl, hreads, hdetached⟩
  obtain ⟨c, rest, rfl⟩ := List.exists_cons_of_ne_nil hreads.ne_nil
  rw [List.cons_append] at hlength ⊢
  rw [spansFrom, hlength]
  dsimp only
  rw [← List.cons_append, List.take_left, List.length_cons, Nat.add_sub_cancel, spansFrom_skip, List.getLast?_cons]
  congr 2
  · omega
  · cases rest.getLast? <;> rfl

/-- Where none stands, it goes on at the next character. -/
theorem spansFrom_of_none {c : Char} (start : Nat)
    (hnone : ∀ word after, c :: text = word ++ after → construct.Reads word →
      ¬ construct.Detached before after.head?) :
    construct.spansFrom start before 0 (c :: text) = construct.spansFrom (start + 1) (some c) 0 text := by
  have hlength : construct.length? before (c :: text) = none := by
    rw [Option.eq_none_iff_forall_ne_some]
    intro length hsome
    obtain ⟨word, after, htext, -, hreads, hdetached⟩ := length?_eq_some_iff.mp hsome
    exact hnone word after htext hreads hdetached
  rw [spansFrom, hlength]

end Search

theorem head?_of_reads {word : List Char} (h : emptyHandler.Reads word) : word.head? = some 'c' := by
  obtain ⟨-, -, -, -, -, -, -, -, rfl⟩ := h
  simp

theorem getLast?_of_reads {word : List Char} (h : emptyHandler.Reads word) : word.getLast? = some '\x7d' := by
  obtain ⟨before, inside, behind, body, -, -, -, -, rfl⟩ := reads_handler_iff.mp h
  rw [List.getLast?_eq_some_iff]
  exact ⟨"catch".toList ++ (before ++ '(' :: (inside ++ ')' :: (behind ++ '\x7b' :: body))), by simp⟩

theorem spansFrom_of_head {c : Char} (h : c ≠ 'c') (start : Nat) (before : Option Char) (text : List Char) :
    emptyHandler.spansFrom start before 0 (c :: text) = emptyHandler.spansFrom (start + 1) (some c) 0 text := by
  apply spansFrom_of_none
  intro word after htext hreads
  have hhead : (word ++ after).head? = some 'c' := by rw [List.head?_append, head?_of_reads hreads, Option.some_or]
  rw [← htext, List.head?_cons, Option.some.injEq] at hhead
  exact absurd hhead h

/-- The handlers in both forms of a text correspond one by one, wherever the searches start. -/
theorem texts_spansFrom_withReturns (text : List Char) (start start' : Nat) (before before' : Option Char) :
    (emptyHandler.spansFrom start' before' 0 (withReturns text)).map Span.text =
      (emptyHandler.spansFrom start before 0 text).map fun span => withReturns span.text := by
  induction hlength : text.length using Nat.strong_induction_on generalizing text start start' before before' with
  | _ length ih =>
      subst hlength
      by_cases hfound : ∃ word after, text = word ++ after ∧ emptyHandler.Reads word
      · obtain ⟨word, after, rfl, hreads⟩ := hfound
        have hshorter : after.length < (word ++ after).length := by
          have hpos := List.length_pos_iff.mpr hreads.ne_nil
          rw [List.length_append]
          omega
        rw [withReturns_append, spansFrom_of_reads start' (reads_withReturns_iff.mpr hreads) nofun,
          spansFrom_of_reads start hreads nofun, List.map_cons, List.map_cons, ih _ hshorter after _ _ _ _ rfl]
      · cases text with
        | nil => rfl
        | cons c text =>
            have hshorter : text.length < (c :: text).length := Nat.lt_succ_self _
            have hnone : emptyHandler.spansFrom start before 0 (c :: text) =
                emptyHandler.spansFrom (start + 1) (some c) 0 text :=
              spansFrom_of_none start fun word after htext hreads => absurd ⟨word, after, htext, hreads⟩ hfound
            by_cases hfeed : c = '\n'
            · subst hfeed
              rw [withReturns_feed, spansFrom_of_head (by decide), spansFrom_of_head (by decide), hnone]
              exact ih _ hshorter text _ _ _ _ rfl
            · have hnone' : emptyHandler.spansFrom start' before' 0 (c :: withReturns text) =
                  emptyHandler.spansFrom (start' + 1) (some c) 0 (withReturns text) := by
                apply spansFrom_of_none
                intro word after htext hreads
                rw [← withReturns_cons hfeed] at htext
                obtain ⟨word, after, hsplit, rfl, -⟩ :=
                  exists_cut htext fun hlast => by simp [getLast?_of_reads hreads] at hlast
                exact absurd ⟨word, after, hsplit, reads_withReturns_iff.mp hreads⟩ hfound
              rw [withReturns_cons hfeed, hnone', hnone]
              exact ih _ hshorter text _ _ _ _ rfl

theorem texts_withReturns (text : List Char) :
    (emptyHandler.spans (withReturns text)).map Span.text =
      (emptyHandler.spans text).map fun span => withReturns span.text :=
  texts_spansFrom_withReturns text 0 0 none none

end Construct

/-- A violation as it is reported of the form of a text with carriage returns: only what a match in the whole file
shows may hold line ends. -/
def Violation.withReturns (violation : Violation) : Violation :=
  match violation.line with
  | some _ => violation
  | none => { violation with snippet := String.ofList (Text.withReturns violation.snippet.toList) }

namespace Rule

theorem violations_withReturns_of_line {rule : Rule} (hscope : rule.scope = .line) {content : List Char}
    (h : ¬ ['\r', '\n'] <:+: content) (file : String) :
    rule.violations (Text.withReturns content) file = (rule.violations content file).map Violation.withReturns := by
  rw [violations_of_line hscope, violations_of_line hscope, Text.physicalLines_withReturns h, List.map_map]
  rfl

theorem violations_withReturns_of_handler (name : String) (content : List Char) (file : String) :
    let rule := against name .emptyHandler .wholeFile
    rule.violations (Text.withReturns content) file = (rule.violations content file).map Violation.withReturns := by
  intro rule
  have hmap : ∀ spans : List Span,
      spans.map (fun span => (⟨file, name, none, String.ofList span.text⟩ : Violation)) =
        (spans.map Span.text).map fun text => ⟨file, name, none, String.ofList text⟩ := by
    intro spans
    rw [List.map_map]
    rfl
  dsimp only [rule, violations, against]
  rw [hmap, Construct.texts_withReturns, List.map_map, List.map_map]
  apply List.map_congr_left
  intro span _
  simp [Violation.withReturns]

/-- With a carriage return before each line feed, a text that had none there breaks the same rules, in the same order
and the same lines, and the lines are shown alike. What is shown of a match in the whole file has its line ends in
the new form. -/
theorem violations_withReturns {content : List Char} (h : ¬ ['\r', '\n'] <:+: content) (file : String) :
    PreMerge.violations standard (Text.withReturns content) file =
      (PreMerge.violations standard content file).map Violation.withReturns := by
  rw [PreMerge.violations, PreMerge.violations, List.map_flatMap]
  apply List.flatMap_congr
  intro rule hrule
  cases hscope : rule.scope with
  | line => exact violations_withReturns_of_line hscope h file
  | wholeFile =>
      obtain rfl := eq_of_mem_standard hrule hscope
      exact violations_withReturns_of_handler _ content file

/-- A handler over three lines, behind a line with a carriage return inside. -/
theorem violations_withReturns_of_spread_handler :
    let content := "x as any\ry\ncatch (e)\n\x7b\n\x7d".toList
    ¬ ['\r', '\n'] <:+: content ∧
    PreMerge.violations standard (Text.withReturns content) "a.ts" =
      [⟨"a.ts", "'as any'", some 1, "x as any\ry"⟩,
        ⟨"a.ts", "Empty catch block", none, "catch (e)\r\n\x7b\r\n\x7d"⟩] := by
  intro content
  have hpairs : ¬ ['\r', '\n'] <:+: content := by decide +kernel
  refine ⟨hpairs, ?_⟩
  rw [violations_withReturns hpairs "a.ts"]
  decide +kernel

end Rule

end PreMerge
