import PreMerge.Proofs.Selection.Pulls

/-! The states that a walk can be in. It gets there by giving files it has listed and by reading directories, each in the
tree as it is then (`Walk.UnderWay`). The directories it has still to enter are apart from one another and from all that
it has read (`UnderWay.apart`). -/

namespace PreMerge

open Selector (Enterable)

/-- A walk that has come to where it is by reading some directories, the last one first, each in the tree as it was
then. A link that it went past counts as read. -/
inductive Walk.UnderWay (selector : Selector) : List (List String) → Walk → Prop
  | fresh : UnderWay selector [] .fresh
  | give {read : List (List String)} {file : String} {listed : List String} {pending : List (List String)}
      (h : UnderWay selector read ⟨file :: listed, pending⟩) : UnderWay selector read ⟨listed, pending⟩
  | visit {read : List (List String)} {names : List String} {rest : List (List String)} {tree : FileTree}
      {listing : Listing} (h : UnderWay selector read ⟨[], names :: rest⟩) (hnamed : tree.WellNamed)
      (hvisit : selector.visit tree names = .ok listing) :
      UnderWay selector (names :: read) ⟨listing.files, listing.directories.map (names ++ [·]) ++ rest⟩

namespace Walk.UnderWay

variable {selector : Selector} {tree : FileTree} {read : List (List String)} {walk later : Walk} {file : String}

theorem enterable (h : UnderWay selector read walk) : ∀ names ∈ walk.pending, Enterable selector names := by
  induction h with
  | fresh => exact List.forall_mem_singleton.mpr (Enterable.root selector)
  | give _ ih => exact ih
  | visit h hnamed hvisit ih =>
      refine Selector.pending_visited (fun directory hdirectory => ?_) ih
      exact (ih _ List.mem_cons_self).visit hnamed hvisit hdirectory

/-- Neither of two directories that are to be entered is above the other, and none is above one that has been read. -/
theorem apart (h : UnderWay selector read walk) :
    walk.pending.Pairwise (fun names other => ¬ names <+: other ∧ ¬ other <+: names) ∧
    ∀ done ∈ read, ∀ names ∈ walk.pending, ¬ names <+: done := by
  induction h with
  | fresh => exact ⟨List.pairwise_singleton _ _, nofun⟩
  | give _ ih => exact ih
  | @visit read names rest tree listing h hnamed hvisit ih =>
      obtain ⟨hpending, hread⟩ := ih
      obtain ⟨hfirst, hrest⟩ := List.pairwise_cons.mp hpending
      have hlonger : ∀ directory, ¬ names ++ [directory] <+: names := by
        intro directory hprefix
        have hlength := hprefix.length_le
        rw [List.length_append, List.length_singleton] at hlength
        omega
      refine ⟨List.pairwise_append.mpr ⟨?_, hrest, ?_⟩, ?_⟩
      · rw [List.pairwise_map]
        refine (Selector.visit_directories_pairwise hvisit).imp fun {directory other} hlt => ?_
        have hne : directory ≠ other := by
          rintro rfl
          exact String.lt_irrefl directory hlt
        simpa [List.prefix_append_right_inj] using ⟨hne, hne.symm⟩
      · intro inner hinner other hother
        obtain ⟨directory, -, rfl⟩ := List.mem_map.mp hinner
        obtain ⟨hbelow, habove⟩ := hfirst other hother
        refine ⟨fun hprefix => hbelow ((List.prefix_append names [directory]).trans hprefix), fun hprefix => ?_⟩
        rcases List.prefix_concat_iff.mp hprefix with rfl | hprefix
        · exact hbelow (List.prefix_append names [directory])
        · exact habove hprefix
      · intro done hdone next hnext
        rcases List.mem_cons.mp hdone with rfl | hdone <;> rcases List.mem_append.mp hnext with hnext | hnext
        · obtain ⟨directory, -, rfl⟩ := List.mem_map.mp hnext
          exact hlonger directory
        · exact (hfirst next hnext).2
        · obtain ⟨directory, -, rfl⟩ := List.mem_map.mp hnext
          intro hprefix
          exact hread done hdone names List.mem_cons_self ((List.prefix_append names [directory]).trans hprefix)
        · exact hread done hdone next (List.mem_cons_of_mem names hnext)

theorem pull (h : UnderWay selector read walk) (hnamed : tree.WellNamed)
    (hpull : selector.pull tree walk = .found file later) : ∃ more, UnderWay selector (more ++ read) later := by
  fun_induction Selector.pull selector tree walk generalizing read with
  | case1 found listed pending =>
      cases hpull
      exact ⟨[], h.give⟩
  | case2 => cases hpull
  | case3 => cases hpull
  | case4 names rest listing hvisit ih =>
      obtain ⟨more, hmore⟩ := ih (h.visit hnamed hvisit) hpull
      exact ⟨more ++ [names], by rwa [List.append_assoc]⟩

end Walk.UnderWay

/-- A selection that has ended, or whose walk is under way. -/
def Selection.UnderWay (selector : Selector) (selection : Selection) : Prop :=
  ∀ walk, selection.walk = some walk → ∃ read, walk.UnderWay selector read

namespace Selector

variable {selector : Selector} {tree : FileTree} {names : List String} {listing : Listing}

theorem pull_listed (selector : Selector) (tree : FileTree) (file : String) (listed : List String)
    (pending : List (List String)) : selector.pull tree ⟨file :: listed, pending⟩ = .found file ⟨listed, pending⟩ := by
  rw [pull]

theorem pull_nothing (selector : Selector) (tree : FileTree) : selector.pull tree ⟨[], []⟩ = .ended := by
  rw [pull]

theorem pull_of_error {fault : Fault} (h : selector.visit tree names = .error fault) (rest : List (List String)) :
    selector.pull tree ⟨[], names :: rest⟩ = .failed fault := by
  rw [pull]
  split <;> simp_all

theorem pull_of_ok (h : selector.visit tree names = .ok listing) (rest : List (List String)) :
    selector.pull tree ⟨[], names :: rest⟩ =
      selector.pull tree ⟨listing.files, listing.directories.map (names ++ [·]) ++ rest⟩ := by
  rw [pull]
  split <;> simp_all

/-- The selection that pulls leave behind. -/
def after (selector : Selector) : List (FileTree × Nat) → Selection → Selection
  | [], selection => selection
  | (tree, count) :: history, selection => selector.after history (selector.take tree count selection).selection

theorem underWay_take (hnamed : tree.WellNamed) (count : Nat) {selection : Selection}
    (h : selection.UnderWay selector) : (selector.take tree count selection).selection.UnderWay selector := by
  fun_induction take selector tree count selection with
  | case1 => exact h
  | case2 => exact h
  | case3 => exact h
  | case4 count left walk file later hpull rest ih =>
      refine ih ?_
      rintro _ ⟨⟩
      obtain ⟨read, hread⟩ := h walk rfl
      obtain ⟨more, hmore⟩ := hread.pull hnamed hpull
      exact ⟨more ++ read, hmore⟩
  | case5 =>
      intro walk hwalk
      cases hwalk
  | case6 =>
      intro walk hwalk
      cases hwalk

theorem underWay_after {history : List (FileTree × Nat)} (hnamed : ∀ pull ∈ history, pull.1.WellNamed)
    {selection : Selection} (h : selection.UnderWay selector) :
    (selector.after history selection).UnderWay selector := by
  induction history generalizing selection with
  | nil => exact h
  | cons first history ih =>
      obtain ⟨hfirst, hrest⟩ := List.forall_mem_cons.mp hnamed
      exact ih hrest (underWay_take hfirst first.2 h)

theorem underWay_select {start : Selection} (hstart : selector.select = .ok start) : start.UnderWay selector := by
  obtain ⟨limit, -, rfl⟩ := select_eq_ok_iff.mp hstart
  rintro _ ⟨⟩
  exact ⟨[], .fresh⟩

end Selector

end PreMerge
