import Mathlib.Data.List.Pairwise
import PreMerge.Proofs.Rule.Occurrence

/-! The search for a construct. Whatever the construct, the spans that are found are occurrences of it, none of
them overlaps another, and every occurrence starts within one of them (`exists_mem_spans`). So a text holds the
construct if and only if it has an occurrence (`spans_ne_nil_iff`). -/

namespace PreMerge.Construct

variable {construct : Construct}

theorem Occurs.start_lt_stop {text : List Char} {span : Span} (h : construct.Occurs text span) :
    span.start < span.stop := by
  obtain ⟨-, -, -, -, hreads, -⟩ := h
  exact Nat.lt_add_of_pos_right (List.length_pos_iff.mpr hreads.ne_nil)

theorem Occurs.stop_le {text : List Char} {span : Span} (h : construct.Occurs text span) :
    span.stop ≤ text.length := by
  obtain ⟨before, after, rfl, hstart, -, -⟩ := h
  rw [Span.stop, ← hstart, List.length_append, List.length_append]
  omega

/-- Where an occurrence starts and stops tells which one it is. -/
theorem Occurs.ext {text : List Char} {span other : Span} (h : construct.Occurs text span)
    (k : construct.Occurs text other) (hstart : span.start = other.start) (hstop : span.stop = other.stop) :
    span = other := by
  obtain ⟨start, word⟩ := span
  obtain ⟨start', word'⟩ := other
  obtain ⟨before, after, rfl, rfl, -, -⟩ := h
  obtain ⟨before', after', htext, rfl, -, -⟩ := k
  dsimp only [Span.stop] at hstart hstop htext
  obtain ⟨-, hrest⟩ := List.append_inj htext hstart
  obtain ⟨rfl, -⟩ := List.append_inj hrest (by omega)
  rw [hstart]

/-- An occurrence behind a part of a text is one that is recognised there. -/
theorem occurs_append_iff {done text : List Char} {span : Span} (hstart : span.start = done.length) :
    construct.Occurs (done ++ text) span ↔
      construct.length? done.getLast? text = some span.text.length ∧ span.text = text.take span.text.length := by
  rw [length?_eq_some_iff]
  constructor
  · rintro ⟨before, after, htext, hbefore, hreads, hdetached⟩
    obtain ⟨rfl, rfl⟩ := List.append_inj htext (by rw [hbefore, hstart])
    exact ⟨⟨span.text, after, rfl, rfl, hreads, hdetached⟩, List.take_left.symm⟩
  · rintro ⟨⟨word, after, rfl, hlength, hreads, hdetached⟩, htake⟩
    rw [← hlength, List.take_left] at htake
    rw [← htake] at hreads
    exact ⟨done, after, by rw [htake], hstart.symm, hreads, hdetached⟩

section Scan

variable {start skip : Nat} {before : Option Char} {text done : List Char}

/-- What is found from a place on are occurrences from there on. -/
theorem occurs_of_mem_spansFrom (hstart : start = done.length) (hbefore : before = done.getLast?) :
    ∀ span ∈ construct.spansFrom start before skip text,
      start + skip ≤ span.start ∧ construct.Occurs (done ++ text) span := by
  fun_induction spansFrom construct start before skip text generalizing done with
  | case1 => nofun
  | case2 start before skip c text ih =>
      intro span hspan
      have hnext := ih (show start + 1 = (done ++ [c]).length by simp [hstart]) (by simp) span hspan
      rw [← List.append_cons] at hnext
      exact ⟨by omega, hnext.2⟩
  | case3 start before c text length hlength ih =>
      intro span hspan
      rcases List.mem_cons.mp hspan with rfl | hspan
      · subst hstart hbefore
        refine ⟨Nat.le_refl _, (occurs_append_iff rfl).mpr ?_⟩
        obtain ⟨word, after, htext, rfl, -⟩ := length?_eq_some_iff.mp hlength
        have htake : (c :: text).take word.length = word := by rw [htext, List.take_left]
        rw [htake]
        exact ⟨hlength, htake.symm⟩
      · have hnext := ih (show start + 1 = (done ++ [c]).length by simp [hstart]) (by simp) span hspan
        rw [← List.append_cons] at hnext
        exact ⟨by omega, hnext.2⟩
  | case4 start before c text hnone ih =>
      intro span hspan
      have hnext := ih (show start + 1 = (done ++ [c]).length by simp [hstart]) (by simp) span hspan
      rw [← List.append_cons] at hnext
      exact ⟨by omega, hnext.2⟩

/-- What is found comes in order, each span behind the one before. -/
theorem spansFrom_pairwise (hstart : start = done.length) (hbefore : before = done.getLast?) :
    (construct.spansFrom start before skip text).Pairwise fun span later => span.stop ≤ later.start := by
  fun_induction spansFrom construct start before skip text generalizing done with
  | case1 => exact .nil
  | case2 start before skip c text ih =>
      exact ih (show start + 1 = (done ++ [c]).length by simp [hstart]) (by simp)
  | case3 start before c text length hlength ih =>
      have hdone : start + 1 = (done ++ [c]).length := by simp [hstart]
      refine List.pairwise_cons.mpr ⟨?_, ih hdone (by simp)⟩
      intro later hlater
      have hle := (occurs_of_mem_spansFrom hdone (by simp) later hlater).1
      have htake : ((c :: text).take length).length ≤ length := List.length_take_le length (c :: text)
      show start + ((c :: text).take length).length ≤ later.start
      omega
  | case4 start before c text hnone ih =>
      exact ih (show start + 1 = (done ++ [c]).length by simp [hstart]) (by simp)

/-- Every occurrence from a place on starts within a span that is found from there on. -/
theorem exists_mem_spansFrom (hstart : start = done.length) (hbefore : before = done.getLast?) {span : Span}
    (hoccurs : construct.Occurs (done ++ text) span) (hfrom : start + skip ≤ span.start) :
    ∃ found ∈ construct.spansFrom start before skip text, found.start ≤ span.start ∧ span.start < found.stop := by
  fun_induction spansFrom construct start before skip text generalizing done with
  | case1 start before skip =>
      -- nothing is left of the text behind the place
      have hlt := hoccurs.start_lt_stop
      have hle := hoccurs.stop_le
      rw [List.append_nil] at hle
      omega
  | case2 start before skip c text ih =>
      rw [List.append_cons] at hoccurs
      exact ih (by simp [hstart]) (by simp) hoccurs (by omega)
  | case3 start before c text length hlength ih =>
      obtain ⟨word, after, htext, rfl, hreads, -⟩ := length?_eq_some_iff.mp hlength
      have hpos : 0 < word.length := List.length_pos_iff.mpr hreads.ne_nil
      by_cases hwithin : span.start < start + word.length
      · refine ⟨_, List.mem_cons_self, hfrom, ?_⟩
        rw [Span.stop, htext, List.take_left]
        exact hwithin
      · rw [List.append_cons] at hoccurs
        obtain ⟨found, hfound, hstarts⟩ := ih (by simp [hstart]) (by simp) hoccurs (by omega)
        exact ⟨found, List.mem_cons_of_mem _ hfound, hstarts⟩
  | case4 start before c text hnone ih =>
      have hother : span.start ≠ start := by
        intro hsame
        rw [occurs_append_iff (hsame.trans hstart), ← hbefore, hnone] at hoccurs
        cases hoccurs.1
      rw [List.append_cons] at hoccurs
      exact ih (by simp [hstart]) (by simp) hoccurs (by omega)

end Scan

variable {text : List Char}

theorem occurs_of_mem_spans {span : Span} (h : span ∈ construct.spans text) : construct.Occurs text span :=
  (occurs_of_mem_spansFrom (show 0 = ([] : List Char).length from rfl) rfl span h).2

theorem spans_pairwise (construct : Construct) (text : List Char) :
    (construct.spans text).Pairwise fun span later => span.stop ≤ later.start :=
  spansFrom_pairwise (show 0 = ([] : List Char).length from rfl) rfl

/-- Of two spans that are found, one lies behind the other. -/
theorem disjoint_of_mem_spans {span other : Span} (hspan : span ∈ construct.spans text)
    (hother : other ∈ construct.spans text) (hne : span ≠ other) :
    span.stop ≤ other.start ∨ other.stop ≤ span.start := by
  have hpairwise : (construct.spans text).Pairwise fun span other =>
      span.stop ≤ other.start ∨ other.stop ≤ span.start := (spans_pairwise construct text).imp .inl
  have hsymm : Std.Symm fun span other : Span => span.stop ≤ other.start ∨ other.stop ≤ span.start :=
    ⟨fun _ _ => Or.symm⟩
  exact hpairwise.forall hspan hother hne

/-- Spans that are found have different ends. -/
theorem eq_of_stop_eq {construct : Construct} {span other : Span} (hspan : span ∈ construct.spans text)
    (hother : other ∈ construct.spans text) (hstop : span.stop = other.stop) : span = other := by
  by_contra hne
  have hlt := (occurs_of_mem_spans hspan).start_lt_stop
  have hlt' := (occurs_of_mem_spans hother).start_lt_stop
  rcases disjoint_of_mem_spans hspan hother hne with hle | hle
  · omega
  · omega

theorem exists_mem_spans {span : Span} (h : construct.Occurs text span) :
    ∃ found ∈ construct.spans text, found.start ≤ span.start ∧ span.start < found.stop :=
  exists_mem_spansFrom (show 0 = ([] : List Char).length from rfl) rfl h (Nat.zero_le _)

theorem spans_ne_nil_iff : construct.spans text ≠ [] ↔ ∃ span, construct.Occurs text span := by
  rw [← List.isEmpty_eq_false_iff, List.isEmpty_eq_false_iff_exists_mem]
  constructor
  · rintro ⟨span, hspan⟩
    exact ⟨span, occurs_of_mem_spans hspan⟩
  · rintro ⟨span, hoccurs⟩
    obtain ⟨found, hfound, -⟩ := exists_mem_spans hoccurs
    exact ⟨found, hfound⟩

end PreMerge.Construct
