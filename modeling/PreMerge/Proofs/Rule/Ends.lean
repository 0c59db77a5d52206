import Mathlib.Data.List.Perm.Subperm
import PreMerge.Proofs.Rule.Handlers
import PreMerge.Proofs.Text.Lines

/-! Where matches end. Constructs other than handlers never overlap, since each is known by its first two characters
and holds them only there; so all their occurrences are found (`mem_spans_iff`). Of handlers one is found for each end.
In both cases every occurrence ends where one that is found ends (`exists_mem_spans_stop`). An occurrence in a part of
a text is one in the whole if no word goes on over the ends of the part (`Occurs.widen`), so what is found in a part
is found, by its end, in the whole (`exists_mem_spans_of_part`). -/

namespace PreMerge.Construct

open Text (endsWord)

variable {construct : Construct}

/-- What a construct other than a handler starts with is nowhere else in it, nor is half of it at the end. -/
theorem exists_opening (hwords : construct ≠ .emptyHandler) : ∃ first second, ∀ word, construct.Reads word →
    ∃ rest, word = first :: second :: rest ∧ ¬ [first, second] <:+: second :: rest ∧
      (second :: rest).getLast? ≠ some first := by
  cases construct with
  | castToAny =>
      refine ⟨'a', 's', ?_⟩
      rintro _ ⟨between, -, hbetween, rfl⟩
      have hblank : 'a' ∉ 's' :: between := by
        rw [List.mem_cons, not_or]
        exact ⟨by decide, fun hmem => absurd (hbetween _ hmem) (by decide)⟩
      refine ⟨between ++ "any".toList, by simp, ?_, ?_⟩
      · rw [← List.cons_append, Text.infix_append_iff hblank]
        decide
      · rw [← List.cons_append, List.getLast?_append_of_ne_nil _ (by simp)]
        decide
  | checkerDirective =>
      refine ⟨'@', 't', ?_⟩
      rintro _ (rfl | rfl)
      · exact ⟨"s-ignore".toList, by decide⟩
      · exact ⟨"s-expect-error".toList, by decide⟩
  | consoleMessage =>
      refine ⟨'c', 'o', ?_⟩
      rintro _ rfl
      exact ⟨"nsole.log".toList, by decide⟩
  | nativeDialog =>
      refine ⟨'w', 'i', ?_⟩
      rintro _ (rfl | rfl)
      · exact ⟨"ndow.alert".toList, by decide⟩
      · exact ⟨"ndow.confirm".toList, by decide⟩
  | emptyHandler => exact absurd rfl hwords

section Overlap

variable {text : List Char} {span other : Span}

/-- Where an occurrence starts tells which one it is. -/
theorem Occurs.eq_of_start (h : construct.Occurs text span) (k : construct.Occurs text other)
    (hstart : span.start = other.start) : span = other := by
  have hlength : span.start = (text.take span.start).length := by
    rw [List.length_take_of_le (h.start_lt_stop.le.trans h.stop_le)]
  rw [← List.take_append_drop span.start text] at h k
  have hspan := ((occurs_append_iff hlength).mp h).1
  have hother := ((occurs_append_iff (hstart.symm.trans hlength)).mp k).1
  rw [hspan, Option.some_inj] at hother
  exact h.ext k hstart (by rw [Span.stop, Span.stop, hstart, hother])

/-- An occurrence that starts within another one starts with the rest of that, as far as it goes. -/
theorem Occurs.exists_rest (h : construct.Occurs text span) (k : construct.Occurs text other)
    (hle : span.start ≤ other.start) (hlt : other.start < span.stop) :
    ∃ lead rest after more, span.text = lead ++ rest ∧ lead.length = other.start - span.start ∧ rest ≠ [] ∧
      rest ++ after = other.text ++ more := by
  obtain ⟨before, after, htext, hbefore, -, -⟩ := h
  obtain ⟨before', more, rfl, hbefore', -, -⟩ := k
  have hlength : other.start - span.start < span.text.length := by
    rw [Span.stop] at hlt
    omega
  refine ⟨span.text.take (other.start - span.start), span.text.drop (other.start - span.start), after, more,
    (List.take_append_drop ..).symm, List.length_take_of_le hlength.le, List.drop_eq_nil_iff.not.mpr (by omega), ?_⟩
  have hdrop := congrArg (List.drop other.start) htext
  rw [List.drop_left' hbefore', List.drop_append, List.drop_append_of_le_length (by omega), hbefore,
    List.drop_of_length_le (by omega), List.nil_append] at hdrop
  exact hdrop.symm

/-- Only handlers overlap. -/
theorem eq_of_overlap (hwords : construct ≠ .emptyHandler) (h : construct.Occurs text span)
    (k : construct.Occurs text other) (hle : span.start ≤ other.start) (hlt : other.start < span.stop) :
    span = other := by
  obtain ⟨lead, tail, after, more, hsplit, hlead, htail, hmore⟩ := h.exists_rest k hle hlt
  cases lead with
  | nil =>
      rw [List.length_nil] at hlead
      exact h.eq_of_start k (by omega)
  | cons c lead =>
      exfalso
      obtain ⟨first, second, hopening⟩ := exists_opening hwords
      obtain ⟨-, -, -, -, hreads, -⟩ := h
      obtain ⟨-, -, -, -, hreads', -⟩ := k
      obtain ⟨rest, hword, hinside, hlast⟩ := hopening _ hreads
      obtain ⟨rest', hword', -⟩ := hopening _ hreads'
      rw [hword, List.cons_append] at hsplit
      obtain ⟨-, hrest⟩ := List.cons.inj hsplit
      rw [hrest] at hinside hlast
      rw [hword'] at hmore
      -- The rest of the first one is half of what the second one starts with, or all of it and more.
      match tail, hmore with
      | [], _ => exact htail rfl
      | [d], hmore =>
        rw [List.singleton_append, List.cons_append] at hmore
        rw [List.getLast?_concat, (List.cons.inj hmore).1] at hlast
        exact hlast rfl
      | d :: e :: tail, hmore =>
        simp only [List.cons_append, List.cons.injEq] at hmore
        obtain ⟨rfl, rfl, -⟩ := hmore
        exact hinside ⟨lead, tail, by simp⟩

/-- Of a construct other than a handler, all occurrences are found. -/
theorem mem_spans_iff (hwords : construct ≠ .emptyHandler) :
    span ∈ construct.spans text ↔ construct.Occurs text span := by
  constructor
  · exact occurs_of_mem_spans
  · intro h
    obtain ⟨found, hfound, hle, hlt⟩ := exists_mem_spans h
    rwa [← eq_of_overlap hwords (occurs_of_mem_spans hfound) h hle hlt]

/-- Every occurrence ends where one ends that is found. -/
theorem exists_mem_spans_stop (h : construct.Occurs text other) :
    ∃ span ∈ construct.spans text, span.stop = other.stop := by
  by_cases hhandler : construct = .emptyHandler
  · subst hhandler
    obtain ⟨span, hspan, hstop, -⟩ := exists_mem_spans_of_stop h
    exact ⟨span, hspan, hstop⟩
  · exact ⟨other, (mem_spans_iff hhandler).mpr h, rfl⟩

end Overlap

theorem stops_pairwise (construct : Construct) (text : List Char) :
    ((construct.spans text).map Span.stop).Pairwise (· < ·) := by
  rw [List.pairwise_map]
  refine (spans_pairwise construct text).imp_of_mem ?_
  intro span later _ hlater hle
  exact hle.trans_lt (occurs_of_mem_spans hlater).start_lt_stop

/-- As many matches are found as there are different values of some measure of them. -/
theorem length_le_of_values {found : List Span} {values : List Nat} (measure : Span → Nat)
    (hvalues : values.Pairwise (· < ·)) (h : ∀ value ∈ values, ∃ span ∈ found, measure span = value) :
    values.length ≤ found.length := by
  have hsubset : values ⊆ found.map measure := fun value hvalue => List.mem_map.mpr (h value hvalue)
  have hle := (List.Nodup.subperm (hvalues.imp Nat.ne_of_lt) hsubset).length_le
  rwa [List.length_map] at hle

section Around

variable {before text after : List Char} {span : Span}

/-- An occurrence stays one in a longer text, if no word goes on over the ends of the shorter one. -/
theorem Occurs.widen (h : construct.Occurs text span) (hbefore : endsWord before.getLast? = true)
    (hafter : endsWord after.head? = true) :
    construct.Occurs (before ++ (text ++ after)) ⟨before.length + span.start, span.text⟩ := by
  obtain ⟨front, back, rfl, hfront, hreads, hdetached⟩ := h
  refine ⟨before ++ front, back ++ after, by simp, by simp [hfront], hreads, ?_⟩
  intro hwords
  obtain ⟨hstart, hend⟩ := hdetached hwords
  constructor
  · cases hlast : front.getLast? with
    | none => rwa [List.getLast?_append, hlast, Option.none_or]
    | some c => rwa [List.getLast?_append, hlast, Option.some_or, ← hlast]
  · cases hhead : back.head? with
    | none => rwa [List.head?_append, hhead, Option.none_or]
    | some c => rwa [List.head?_append, hhead, Option.some_or, ← hhead]

/-- An occurrence that lies in a part of a text is one in that part. -/
theorem Occurs.narrow (h : construct.Occurs (before ++ (text ++ after)) span) (hstart : before.length ≤ span.start)
    (hstop : span.stop ≤ before.length + text.length) :
    construct.Occurs text ⟨span.start - before.length, span.text⟩ := by
  obtain ⟨front, back, hcontent, hfront, hreads, hdetached⟩ := h
  rw [Span.stop] at hstop
  obtain ⟨lead, rfl⟩ : before <+: front :=
    List.prefix_of_prefix_length_le ⟨_, rfl⟩ ⟨_, hcontent.symm⟩ (by omega)
  rw [List.append_assoc] at hcontent
  have hrest := List.append_cancel_left hcontent
  rw [List.length_append] at hfront
  obtain ⟨tail, rfl⟩ : lead ++ span.text <+: text := by
    refine List.prefix_of_prefix_length_le ⟨back, ?_⟩ ⟨after, hrest⟩ ?_
    · exact List.append_assoc ..
    · rw [List.length_append]
      omega
  obtain rfl : tail ++ after = back := by simpa using hrest
  refine ⟨lead, tail, List.append_assoc .., by dsimp only; omega, hreads, ?_⟩
  intro hwords
  obtain ⟨hbegin, hend⟩ := hdetached hwords
  constructor
  · cases hlast : lead.getLast? with
    | none => rfl
    | some c => rwa [List.getLast?_append, hlast, Option.some_or] at hbegin
  · cases hhead : tail.head? with
    | none => rfl
    | some c => rwa [List.head?_append, hhead, Option.some_or] at hend

/-- Where a match in a part of a text ends, one that is found in the whole text ends. -/
theorem exists_mem_spans_of_part (hbefore : endsWord before.getLast? = true) (hafter : endsWord after.head? = true)
    (h : span ∈ construct.spans text) :
    ∃ found ∈ construct.spans (before ++ (text ++ after)), found.stop = before.length + span.stop := by
  obtain ⟨found, hfound, hstop⟩ := exists_mem_spans_stop ((occurs_of_mem_spans h).widen hbefore hafter)
  refine ⟨found, hfound, hstop.trans ?_⟩
  rw [Span.stop, Span.stop, Nat.add_assoc]

end Around

end PreMerge.Construct
