import PreMerge.Selection.Walk

/-! What a walk yields of a tree that stays as it is, told from one directory to the next: the files of a directory,
then what its directories yield one after the other, and nothing behind the first directory that cannot be listed
(`Yields`). The walk itself keeps one list of directories that are still to be read; it yields the same
(`yields_iff_trace`), so there is one such sequence for every list of directories. -/

namespace PreMerge

namespace Selector

/-- The files below directories that are read one after the other, and the fault that ends them early. -/
inductive Yields (selector : Selector) (tree : FileTree) : List (List String) → List String → Option Fault → Prop
  | nothing : Yields selector tree [] [] none
  | refused {names : List String} {rest : List (List String)} {fault : Fault}
      (hvisit : selector.visit tree names = .error fault) : Yields selector tree (names :: rest) [] (some fault)
  | broken {names : List String} {rest : List (List String)} {listing : Listing} {files : List String}
      {fault : Fault} (hvisit : selector.visit tree names = .ok listing)
      (hinside : Yields selector tree (listing.directories.map (names ++ [·])) files (some fault)) :
      Yields selector tree (names :: rest) (listing.files ++ files) (some fault)
  | complete {names : List String} {rest : List (List String)} {listing : Listing} {files more : List String}
      {stop : Option Fault} (hvisit : selector.visit tree names = .ok listing)
      (hinside : Yields selector tree (listing.directories.map (names ++ [·])) files none)
      (hrest : Yields selector tree rest more stop) :
      Yields selector tree (names :: rest) (listing.files ++ files ++ more) stop

variable {selector : Selector} {tree : FileTree} {pending : List (List String)} {files : List String}
  {stop : Option Fault}

/-- What directories in a row yield is what the first of them yield and, unless that ends early, what the others
yield. -/
theorem Yields.of_append {first second : List (List String)}
    (h : Yields selector tree (first ++ second) files stop) :
    (∃ fault, stop = some fault ∧ Yields selector tree first files stop) ∨
    ∃ before after, files = before ++ after ∧ Yields selector tree first before none ∧
      Yields selector tree second after stop := by
  induction first generalizing files with
  | nil => exact .inr ⟨[], files, rfl, .nothing, h⟩
  | cons names rest ih =>
      cases h with
      | refused hvisit => exact .inl ⟨_, rfl, .refused hvisit⟩
      | broken hvisit hinside => exact .inl ⟨_, rfl, .broken hvisit hinside⟩
      | complete hvisit hinside hrest =>
          rcases ih hrest with ⟨fault, rfl, hfirst⟩ | ⟨before, after, rfl, hfirst, hsecond⟩
          · exact .inl ⟨fault, rfl, .complete hvisit hinside hfirst⟩
          · refine .inr ⟨_, after, ?_, .complete hvisit hinside hfirst, hsecond⟩
            simp only [List.append_assoc]

theorem trace_nil (selector : Selector) (tree : FileTree) (listed : List String) :
    selector.trace tree ⟨listed, []⟩ = (listed, none) := by
  rw [trace]

theorem trace_listed (listed : List String) (pending : List (List String)) :
    selector.trace tree ⟨listed, pending⟩ =
      (listed ++ (selector.trace tree ⟨[], pending⟩).1, (selector.trace tree ⟨[], pending⟩).2) := by
  induction listed with
  | nil => rfl
  | cons file listed ih => rw [trace_cons, ih, List.cons_append]

/-- Directories behind others are read once the others are done with. -/
theorem trace_append_of_end (walk : Walk) (hend : (selector.trace tree walk).2 = none)
    (more : List (List String)) :
    selector.trace tree ⟨walk.listed, walk.pending ++ more⟩ =
      ((selector.trace tree walk).1 ++ (selector.trace tree ⟨[], more⟩).1, (selector.trace tree ⟨[], more⟩).2) := by
  fun_induction trace selector tree walk with
  | case1 listed => exact trace_listed listed more
  | case2 listed names rest fault hvisit => cases hend
  | case3 listed names rest listing hvisit later ih =>
      rw [List.cons_append, trace_of_ok hvisit, ← List.append_assoc, ih hend, List.append_assoc]

/-- Behind a directory that cannot be listed none is read. -/
theorem trace_append_of_fault (walk : Walk) {fault : Fault} (hstop : (selector.trace tree walk).2 = some fault)
    (more : List (List String)) :
    selector.trace tree ⟨walk.listed, walk.pending ++ more⟩ = selector.trace tree walk := by
  fun_induction trace selector tree walk with
  | case1 listed => cases hstop
  | case2 listed names rest other hvisit => exact trace_of_error hvisit listed (rest ++ more)
  | case3 listed names rest listing hvisit later ih =>
      rw [List.cons_append, trace_of_ok hvisit, ← List.append_assoc, ih hstop]

theorem Yields.trace_eq (h : Yields selector tree pending files stop) :
    selector.trace tree ⟨[], pending⟩ = (files, stop) := by
  induction h with
  | nothing => exact trace_nil selector tree []
  | refused hvisit => exact trace_of_error hvisit [] _
  | broken hvisit hinside ih =>
      have hlater := trace_append_of_fault _ (congrArg Prod.snd ih)
      rw [ih] at hlater
      rw [trace_of_ok hvisit, trace_listed, hlater, List.nil_append]
  | complete hvisit hinside hrest ih ihrest =>
      have hlater := trace_append_of_end _ (congrArg Prod.snd ih)
      rw [ih] at hlater
      rw [trace_of_ok hvisit, trace_listed, hlater, ihrest, List.nil_append, List.append_assoc]

theorem exists_yields (selector : Selector) (tree : FileTree) (walk : Walk) :
    ∃ files stop, Yields selector tree walk.pending files stop := by
  fun_induction trace selector tree walk with
  | case1 listed => exact ⟨[], none, .nothing⟩
  | case2 listed names rest fault hvisit => exact ⟨[], some fault, .refused hvisit⟩
  | case3 listed names rest listing hvisit later ih =>
      obtain ⟨files, stop, h⟩ := ih
      rcases h.of_append with ⟨fault, rfl, hinside⟩ | ⟨before, after, -, hinside, hrest⟩
      · exact ⟨_, _, .broken hvisit hinside⟩
      · exact ⟨_, _, .complete hvisit hinside hrest⟩

/-- A walk yields what the directories yield that it has still to read, one below the other. -/
theorem yields_iff_trace : Yields selector tree pending files stop ↔
    selector.trace tree ⟨[], pending⟩ = (files, stop) := by
  constructor
  · exact Yields.trace_eq
  · intro h
    obtain ⟨others, other, hyields⟩ := selector.exists_yields tree ⟨[], pending⟩
    rw [hyields.trace_eq] at h
    cases h
    exact hyields

theorem Yields.unique {others : List String} {other : Option Fault}
    (h : Yields selector tree pending files stop) (k : Yields selector tree pending others other) :
    files = others ∧ stop = other := by
  have hsame := h.trace_eq.symm.trans k.trace_eq
  cases hsame
  exact ⟨rfl, rfl⟩

end Selector

end PreMerge
