import PreMerge.Proofs.Rule.Search
import PreMerge.Rule.Violation

/-! Handlers that swallow what they catch, in a whole file. Two of them may overlap only in what stands between
parentheses, where one starts inside the other; both then share the parenthesis that closes, and so the end
(`stop_eq_of_overlap`). For each place where one ends, the first to end there is reported, and no other
(`handlers_reported_by_end`). -/

namespace PreMerge.Construct

open Text (isBlank)

/-- A block with nothing but blanks in it and before it. -/
def Block (text : List Char) : Prop :=
  ∃ behind body, Blanks behind ∧ Blanks body ∧ text = behind ++ '\x7b' :: (body ++ ['\x7d'])

/-- A handler falls into a part before the parenthesis that closes and an empty block. -/
theorem Occurs.exists_block {text : List Char} {span : Span} (h : emptyHandler.Occurs text span) :
    ∃ before head block after, text = before ++ (head ++ ')' :: (block ++ after)) ∧
      before.length = span.start ∧ span.stop = span.start + head.length + block.length + 1 ∧
      head.head? = some 'c' ∧ (∀ c ∈ head, (c != ')') = true) ∧ Block block := by
  obtain ⟨before, after, rfl, hbefore, ⟨outer, inside, behind, body, houter, hinside, hbehind, hbody, hword⟩, -⟩ := h
  refine ⟨before, "catch".toList ++ (outer ++ '(' :: inside), behind ++ '\x7b' :: (body ++ ['\x7d']), after, ?_,
    hbefore, ?_, by simp, ?_, behind, body, hbehind, hbody, rfl⟩
  · simp [hword]
  · simp only [Span.stop, hword, List.length_append, List.length_cons, List.length_nil, String.reduceToSingleton,
      String.toList_singleton]
    omega
  · intro c hc
    have hletters : "catch(".toList.all (· != ')') = true := by decide
    have hwithin : c ∈ "catch(".toList ∨ c ∈ outer ∨ c ∈ inside := by simpa [or_left_comm, or_assoc] using hc
    rcases hwithin with hletter | houtside | hinner
    · exact List.all_eq_true.mp hletters c hletter
    · rw [bne_iff_ne]
      rintro rfl
      exact absurd (houter _ houtside) (by decide)
    · exact hinside c hinner

theorem Block.unique {block other rest more : List Char} (hblock : Block block) (hother : Block other)
    (h : block ++ rest = other ++ more) : block = other ∧ rest = more := by
  obtain ⟨behind, body, hbehind, hbody, rfl⟩ := hblock
  obtain ⟨behind', body', hbehind', hbody', rfl⟩ := hother
  simp only [List.append_assoc, List.cons_append, List.nil_append] at h
  obtain ⟨rfl, hbodies⟩ := run_unique (by decide) hbehind hbehind' h
  obtain ⟨rfl, rfl⟩ := run_unique (by decide) hbody hbody' hbodies
  exact ⟨rfl, rfl⟩

/-- No handler starts in what closes another one. -/
theorem Block.not_mem {block : List Char} (h : Block block) : 'c' ∉ ')' :: block := by
  obtain ⟨behind, body, hbehind, hbody, rfl⟩ := h
  intro hmem
  have hwithin : 'c' ∈ behind ∨ 'c' ∈ body := by simpa using hmem
  rcases hwithin with hblank | hblank
  · exact absurd (hbehind _ hblank) (by decide)
  · exact absurd (hbody _ hblank) (by decide)

/-- What starts like a handler, and not behind the end of another one, starts before the parenthesis that
closes that one. -/
theorem Block.exists_rest {block head after lead more : List Char} (hblock : Block block)
    (hmore : more.head? = some 'c') (h : head ++ ')' :: (block ++ after) = lead ++ more)
    (hlt : lead.length < head.length + block.length + 1) :
    ∃ rest, head = lead ++ rest ∧ more = rest ++ ')' :: (block ++ after) := by
  have hc : (head ++ (')' :: block ++ after))[lead.length]? = some 'c' := by
    rw [List.cons_append, h, List.getElem?_append_right (Nat.le_refl _), Nat.sub_self, ← List.head?_eq_getElem?, hmore]
  rcases Nat.lt_or_ge lead.length head.length with hshort | hle
  · obtain ⟨rest, rfl⟩ : lead <+: head :=
      List.prefix_of_prefix_length_le ⟨more, rfl⟩ ⟨_, h⟩ hshort.le
    rw [List.append_assoc] at h
    exact ⟨rest, rfl, (List.append_cancel_left h).symm⟩
  · have hwithin : lead.length - head.length < (')' :: block).length := by
      rw [List.length_cons]
      omega
    rw [List.getElem?_append_right hle, List.getElem?_append_left hwithin] at hc
    exact absurd (List.mem_of_getElem? hc) hblock.not_mem

/-- A handler that starts inside another one ends with it. -/
theorem stop_eq_of_overlap {text : List Char} {span other : Span} (h : emptyHandler.Occurs text span)
    (k : emptyHandler.Occurs text other) (hle : span.start ≤ other.start) (hlt : other.start < span.stop) :
    other.stop = span.stop := by
  obtain ⟨before, head, block, after, rfl, hbefore, hstop, -, hhead, hblock⟩ := h.exists_block
  obtain ⟨before', head', block', after', htext, hbefore', hstop', hfirst, hhead', hblock'⟩ := k.exists_block
  -- the part of the first handler that comes before the second one
  obtain ⟨lead, rfl⟩ : before <+: before' :=
    List.prefix_of_prefix_length_le ⟨_, rfl⟩ ⟨_, htext.symm⟩ (by omega)
  rw [List.append_assoc] at htext
  have hrest := List.append_cancel_left htext
  rw [List.length_append] at hbefore'
  have hmore : (head' ++ ')' :: (block' ++ after')).head? = some 'c' := by
    rw [List.head?_append, hfirst, Option.some_or]
  obtain ⟨rest, rfl, hclose⟩ := hblock.exists_rest hmore hrest (by omega)
  -- the same parenthesis closes both
  have hinner : ∀ c ∈ rest, (c != ')') = true := fun c hc => hhead c (List.mem_append_right lead hc)
  obtain ⟨rfl, hafter⟩ := run_unique (by decide) hhead' hinner hclose
  obtain ⟨rfl, -⟩ := hblock'.unique hblock hafter
  rw [hstop, hstop', List.length_append]
  omega

variable {text : List Char}

/-- Of the handlers with a common end, one is found that starts no later than a given one. -/
theorem exists_mem_spans_of_stop {other : Span} (h : emptyHandler.Occurs text other) :
    ∃ span ∈ emptyHandler.spans text, span.stop = other.stop ∧ span.start ≤ other.start := by
  obtain ⟨span, hspan, hle, hlt⟩ := exists_mem_spans h
  exact ⟨span, hspan, (stop_eq_of_overlap (occurs_of_mem_spans hspan) h hle hlt).symm, hle⟩

end PreMerge.Construct

namespace PreMerge.Rule

/-- The rule on whole files reports, for each place where an empty handler ends, the first handler that ends
there, by its text and without a line, and nothing else. What it reports comes in order and does not
overlap. -/
theorem handlers_reported_by_end {rule : Rule} (hrule : rule ∈ standard) (hscope : rule.scope = .wholeFile)
    (content : List Char) (file : String) :
    ∃ spans : List Span,
      rule.violations content file = spans.map (fun span => ⟨file, rule.name, none, String.ofList span.text⟩) ∧
      spans.Pairwise (fun span later => span.start < later.start ∧ span.stop ≤ later.start) ∧
      (∀ span, span ∈ spans ↔ Construct.emptyHandler.Occurs content span ∧
        ∀ other, Construct.emptyHandler.Occurs content other → other.stop = span.stop → span.start ≤ other.start) ∧
      ∀ stop, (∃ other, Construct.emptyHandler.Occurs content other ∧ other.stop = stop) ↔
        ∃! span, span ∈ spans ∧ span.stop = stop := by
  obtain rfl := eq_of_mem_standard hrule hscope
  have hspans : (against "Empty catch block" .emptyHandler .wholeFile).violations content file =
      (Construct.emptyHandler.spans content).map fun span =>
        ⟨file, "Empty catch block", none, String.ofList span.text⟩ := rfl
  refine ⟨Construct.emptyHandler.spans content, hspans, ?_, ?_, ?_⟩
  · refine (Construct.spans_pairwise .emptyHandler content).imp_of_mem ?_
    intro span later hspan _ hle
    exact ⟨(Construct.occurs_of_mem_spans hspan).start_lt_stop.trans_le hle, hle⟩
  · intro span
    constructor
    · intro hspan
      refine ⟨Construct.occurs_of_mem_spans hspan, ?_⟩
      intro other hother hstop
      obtain ⟨found, hfound, hends, hle⟩ := Construct.exists_mem_spans_of_stop hother
      obtain rfl := Construct.eq_of_stop_eq hfound hspan (hends.trans hstop)
      exact hle
    · rintro ⟨hoccurs, hfirst⟩
      obtain ⟨found, hfound, hends, hle⟩ := Construct.exists_mem_spans_of_stop hoccurs
      have hfoundOccurs := Construct.occurs_of_mem_spans hfound
      obtain rfl := hoccurs.ext hfoundOccurs (Nat.le_antisymm (hfirst found hfoundOccurs hends) hle) hends.symm
      exact hfound
  · intro stop
    constructor
    · rintro ⟨other, hother, rfl⟩
      obtain ⟨found, hfound, hends, -⟩ := Construct.exists_mem_spans_of_stop hother
      exact ⟨found, ⟨hfound, hends⟩, fun span ⟨hspan, hstop⟩ =>
        Construct.eq_of_stop_eq hspan hfound (hstop.trans hends.symm)⟩
    · rintro ⟨span, ⟨hspan, hstop⟩, -⟩
      exact ⟨span, Construct.occurs_of_mem_spans hspan, hstop⟩

/-- An unfinished handler before another one: one match reaches from the first to the end of the second. -/
theorem handlers_reported_by_end_of_nested :
    let rule := against "Empty catch block" .emptyHandler .wholeFile
    let content := "catch(catch (e)\n\x7b \x7d\x7d".toList
    ∃ spans : List Span,
      rule.violations content "a.ts" =
        spans.map (fun span => ⟨"a.ts", rule.name, none, String.ofList span.text⟩) ∧
      ∃ span ∈ spans, span.start = 0 ∧ span.stop = 19 := by
  intro rule content
  obtain ⟨spans, hviolations, -, hfirst, hends⟩ :=
    @handlers_reported_by_end rule (by simp [rule, standard]) rfl content "a.ts"
  have houter : Construct.emptyHandler.Occurs ([] ++ content) ⟨0, content.take 19⟩ := by
    rw [Construct.occurs_append_iff rfl]
    decide +kernel
  obtain ⟨span, ⟨hspan, hstop⟩, -⟩ := (hends 19).mp ⟨_, houter, by decide +kernel⟩
  have hle := ((hfirst span).mp hspan).2 _ houter (by rw [hstop]; decide +kernel)
  exact ⟨spans, hviolations, span, hspan, Nat.le_zero.mp hle, hstop⟩

end PreMerge.Rule
