import PreMerge.Proofs.Selection.Visit
import PreMerge.Selection.Candidates

/-! Pulling files from a walk while the tree changes under it. Whatever the tree is at each pull, a
directory is listed once, all at one time; what a walk has given, what it has listed and the directories it
has still to enter are in the order of the walk (`Walk.Sound`). A visit keeps that, so every history of
pulls is in order, without repetition and within the rules. -/

namespace PreMerge

open Selector (Earlier Precedes Below Leads Eligible Enterable namesOf)

/-- What a walk has given and what it holds: the paths are in order, all that lies below its pending
directories comes behind them, and the rules allow all of it. -/
structure Walk.Sound (selector : Selector) (given : List String) (walk : Walk) : Prop where
  paths : (given ++ walk.listed).Pairwise Earlier
  pending : walk.pending.Pairwise Leads
  ahead : ∀ path ∈ given ++ walk.listed, ∀ directory ∈ walk.pending, ∀ later, Below directory later →
    Precedes (namesOf path) later
  eligible : ∀ path ∈ given ++ walk.listed, Eligible selector path
  enterable : ∀ directory ∈ walk.pending, Enterable selector directory

namespace Selector

variable {selector : Selector} {tree : FileTree} {names : List String} {listing : Listing}

/-- The files of one directory are given in order. -/
theorem visit_files_pairwise (henterable : Enterable selector names) (hnamed : tree.WellNamed)
    (h : selector.visit tree names = .ok listing) : listing.files.Pairwise Earlier := by
  rcases visit_cases h with rfl | ⟨all, hlist, rfl⟩
  · exact List.Pairwise.nil
  · obtain ⟨entries, -, rfl⟩ := FileTree.list_eq_ok hlist
    unfold chosen
    split
    · exact List.Pairwise.nil
    · have hlt := sorted_pairwise_lt (tree.listing_nodup (selector.root.extend names)
        (selector.spelling names) entries).1
      rw [List.pairwise_map]
      refine (hlt.filter _).imp_of_mem fun {file other} hfile hother hfiles => ?_
      have hname : ∀ name ∈ (tree.listing (selector.root.extend names) (selector.spelling names) entries).files,
          FileTree.isName name = true := fun name hmem => FileTree.list_names hnamed hlist (.inl hmem)
      rw [Earlier, namesOf_selected henterable, namesOf_selected henterable]
      · exact precedes_append_left names (.file hfiles)
      · exact hname other ((sorted_perm _).mem_iff.mp (List.mem_filter.mp hother).1)
      · exact hname file ((sorted_perm _).mem_iff.mp (List.mem_filter.mp hfile).1)

theorem visit_directories_pairwise (h : selector.visit tree names = .ok listing) :
    listing.directories.Pairwise (· < ·) := by
  rcases visit_cases h with rfl | ⟨all, hlist, rfl⟩
  · exact List.Pairwise.nil
  · obtain ⟨entries, -, rfl⟩ := FileTree.list_eq_ok hlist
    exact sorted_pairwise_lt ((tree.listing_nodup (selector.root.extend names)
      (selector.spelling names) entries).2.filter _)

end Selector

namespace Walk.Sound

variable {selector : Selector} {tree : FileTree} {given listed : List String} {pending : List (List String)}

theorem fresh (selector : Selector) : Sound selector [] .fresh where
  paths := List.Pairwise.nil
  pending := List.pairwise_singleton _ _
  ahead := nofun
  eligible := nofun
  enterable directory hdirectory := by
    rw [List.mem_singleton.mp hdirectory]
    exact Enterable.root selector

/-- What is listed may be counted as given. -/
theorem give {more : List String} (h : Sound selector given ⟨more ++ listed, pending⟩) :
    Sound selector (given ++ more) ⟨listed, pending⟩ := by
  obtain ⟨paths, hpending, ahead, eligible, enterable⟩ := h
  refine ⟨?_, hpending, ?_, ?_, enterable⟩ <;> rwa [List.append_assoc]

/-- A visit keeps what is said of a walk. -/
theorem visit {names : List String} {rest : List (List String)} {listing : Listing}
    (h : Sound selector given ⟨[], names :: rest⟩) (hnamed : tree.WellNamed)
    (hvisit : selector.visit tree names = .ok listing) :
    Sound selector given ⟨listing.files, listing.directories.map (names ++ [·]) ++ rest⟩ := by
  obtain ⟨hpaths, hpending, hahead, heligible, henterable⟩ := h
  rw [List.append_nil] at hpaths hahead heligible
  have hnames := henterable names List.mem_cons_self
  obtain ⟨hleads, hrest⟩ := List.pairwise_cons.mp hpending
  -- What the visit finds lies below the directory visited, so it comes behind all given and before the rest.
  have hinside : ∀ path ∈ listing.files, ∃ file, FileTree.isName file = true ∧
      namesOf path = names ++ [file] := by
    intro path hpath
    obtain ⟨-, file, hfile, -, rfl⟩ := Selector.visit_files hnamed hvisit hpath
    exact ⟨file, hfile, Selector.namesOf_selected hnames hfile⟩
  refine ⟨?_, ?_, ?_, ?_, ?_⟩
  · refine List.pairwise_append.mpr ⟨hpaths, Selector.visit_files_pairwise hnames hnamed hvisit, ?_⟩
    intro path hpath found hfound
    obtain ⟨file, -, hfile⟩ := hinside found hfound
    exact hahead path hpath names List.mem_cons_self _ ⟨file, [], hfile⟩
  · refine List.pairwise_append.mpr ⟨?_, hrest, ?_⟩
    · rw [List.pairwise_map]
      exact (Selector.visit_directories_pairwise hvisit).imp fun hlt => Selector.leads_of_lt names hlt
    · intro inner hinner other hother path next hpath hnext
      obtain ⟨directory, -, rfl⟩ := List.mem_map.mp hinner
      exact hleads other hother path next (Selector.below_of_below_append hpath) hnext
  · intro path hpath directory hdirectory later hlater
    rcases List.mem_append.mp hdirectory with hdirectory | hdirectory
    · obtain ⟨inner, -, rfl⟩ := List.mem_map.mp hdirectory
      rcases List.mem_append.mp hpath with hpath | hpath
      · exact hahead path hpath names List.mem_cons_self later (Selector.below_of_below_append hlater)
      · obtain ⟨file, -, hfile⟩ := hinside path hpath
        rw [hfile]
        exact Selector.precedes_of_file names file hlater
    · rcases List.mem_append.mp hpath with hpath | hpath
      · exact hahead path hpath directory (List.mem_cons_of_mem names hdirectory) later hlater
      · obtain ⟨file, -, hfile⟩ := hinside path hpath
        exact hleads directory hdirectory _ later ⟨file, [], hfile⟩ hlater
  · intro path hpath
    rcases List.mem_append.mp hpath with hpath | hpath
    · exact heligible path hpath
    · exact Selector.visit_eligible hnames hnamed hvisit hpath
  · intro directory hdirectory
    rcases List.mem_append.mp hdirectory with hdirectory | hdirectory
    · obtain ⟨inner, hinner, rfl⟩ := List.mem_map.mp hdirectory
      exact hnames.visit hnamed hvisit hinner
    · exact henterable directory (List.mem_cons_of_mem names hdirectory)

/-- One pull keeps what is said of a walk, with the file pulled as the last one given. -/
theorem pull {walk later : Walk} {file : String} (h : Sound selector given walk) (hnamed : tree.WellNamed)
    (hpull : selector.pull tree walk = .found file later) : Sound selector (given ++ [file]) later := by
  fun_induction Selector.pull selector tree walk with
  | case1 found listed pending =>
      cases hpull
      exact h.give
  | case2 => cases hpull
  | case3 => cases hpull
  | case4 names rest listing hvisit ih => exact ih (h.visit hnamed hvisit) hpull

end Walk.Sound

/-- What a selection has given so far and what it may still give, where `limit` is how many files it gives
at most. -/
structure Selection.Sound (selector : Selector) (limit : Nat) (given : List String) (selection : Selection) :
    Prop where
  paths : given.Pairwise Earlier
  eligible : ∀ path ∈ given, Eligible selector path
  count : given.length + selection.left = limit
  walk : ∀ walk, selection.walk = some walk → walk.Sound selector given

/-- A selection that gives nothing any more. -/
def Selection.Ended (selection : Selection) : Prop :=
  selection.left = 0 ∨ selection.walk = none

namespace Selector

variable {selector : Selector} {tree : FileTree} {limit : Nat} {given : List String} {selection : Selection}

theorem select_eq_ok_iff {start : Selection} :
    selector.select = .ok start ↔ ∃ limit, selector.countable = .ok limit ∧ start = ⟨limit, some .fresh⟩ := by
  rw [select]
  cases selector.countable with
  | error refusal => simp [Except.map]
  | ok limit => simp [Except.map, eq_comm]

theorem sound_select (hselect : selector.select = .ok selection) :
    selection.Sound selector selector.limit.toNat [] := by
  unfold select countable at hselect
  split at hselect
  · cases hselect
    refine ⟨List.Pairwise.nil, nofun, Nat.zero_add _, ?_⟩
    rintro _ ⟨⟩
    exact Walk.Sound.fresh selector
  · cases hselect

/-- Pulls of any number of files from a tree keep what is said of a selection. -/
theorem sound_take (h : selection.Sound selector limit given) (hnamed : tree.WellNamed) (count : Nat) :
    (selector.take tree count selection).selection.Sound selector limit
      (given ++ (selector.take tree count selection).files) := by
  fun_induction take selector tree count selection generalizing given with
  | case1 => simpa using h
  | case2 => simpa using h
  | case3 => simpa using h
  | case4 count left walk file later hpull rest =>
      rename_i ih
      have hwalk := (h.walk walk rfl).pull hnamed hpull
      have hcount := h.count
      have hlater : Selection.Sound selector limit (given ++ [file]) ⟨left, some later⟩ := by
        refine ⟨(List.pairwise_append.mp hwalk.paths).1, ?_, ?_, ?_⟩
        · exact fun path hpath => hwalk.eligible path (List.mem_append_left _ hpath)
        · simp only [List.length_append, List.length_singleton] at hcount ⊢
          omega
        · rintro _ ⟨⟩
          exact hwalk
      have hrest := ih hlater
      rwa [List.append_assoc, List.singleton_append] at hrest
  | case5 count left walk fault hpull =>
      refine ⟨by simpa using h.paths, by simpa using h.eligible, by simpa using h.count, nofun⟩
  | case6 count left walk hpull =>
      refine ⟨by simpa using h.paths, by simpa using h.eligible, by simpa using h.count, nofun⟩

theorem take_of_ended (selector : Selector) (h : selection.Ended) (tree : FileTree) (count : Nat) :
    (selector.take tree count selection).files = [] ∧ (selector.take tree count selection).selection.Ended := by
  obtain ⟨left, walk⟩ := selection
  cases count with
  | zero => exact ⟨rfl, h⟩
  | succ count =>
      cases left with
      | zero => exact ⟨rfl, h⟩
      | succ left =>
          cases walk with
          | none => exact ⟨rfl, h⟩
          | some walk => rcases h with h | h <;> cases h

/-- A selection from which no more files came, or a fault, has ended. -/
theorem ended_of_stop (tree : FileTree) (count : Nat) (selection : Selection)
    (hstop : (selector.take tree count selection).stop ≠ none) :
    (selector.take tree count selection).selection.Ended := by
  fun_induction take selector tree count selection with
  | case1 => exact absurd rfl hstop
  | case2 => exact .inl rfl
  | case3 => exact .inr rfl
  | case4 count left walk file later hpull rest ih => exact ih hstop
  | case5 => exact .inr rfl
  | case6 => exact .inr rfl

/-- The batches that come of pulls, each with the tree as it is then and the number of files asked for. -/
def pulls (selector : Selector) : List (FileTree × Nat) → Selection → List Batch
  | [], _ => []
  | (tree, count) :: history, selection =>
    let batch := selector.take tree count selection
    batch :: pulls selector history batch.selection

/-- All files that come of pulls. -/
def pulled (selector : Selector) (history : List (FileTree × Nat)) (start : Selection) : List String :=
  (selector.pulls history start).flatMap (·.files)

theorem sound_pulls {history : List (FileTree × Nat)} (h : selection.Sound selector limit given)
    (hnamed : ∀ pull ∈ history, pull.1.WellNamed) :
    ∃ last : Selection, last.Sound selector limit (given ++ selector.pulled history selection) := by
  induction history generalizing given selection with
  | nil => exact ⟨selection, by simpa [pulled, pulls] using h⟩
  | cons first history ih =>
      obtain ⟨tree, count⟩ := first
      obtain ⟨hfirst, hrest⟩ := List.forall_mem_cons.mp hnamed
      obtain ⟨last, hlast⟩ := ih (sound_take h hfirst count) hrest
      refine ⟨last, ?_⟩
      rwa [pulled, pulls, List.flatMap_cons, ← List.append_assoc]

theorem pulls_of_ended {history : List (FileTree × Nat)} (h : selection.Ended) :
    ∀ batch ∈ selector.pulls history selection, batch.files = [] := by
  induction history generalizing selection with
  | nil => nofun
  | cons first history ih =>
      obtain ⟨tree, count⟩ := first
      obtain ⟨hfiles, hended⟩ := take_of_ended selector h tree count
      rw [pulls]
      exact List.forall_mem_cons.mpr ⟨hfiles, ih hended⟩

/-- Behind a batch that says why there are no more files, no batch holds any. -/
theorem pulls_silent (history : List (FileTree × Nat)) (selection : Selection) :
    (selector.pulls history selection).Pairwise fun batch later => batch.stop ≠ none → later.files = [] := by
  induction history generalizing selection with
  | nil => exact List.Pairwise.nil
  | cons first history ih =>
      obtain ⟨tree, count⟩ := first
      rw [pulls, List.pairwise_cons]
      refine ⟨fun later hlater hstop => ?_, ih _⟩
      exact pulls_of_ended (ended_of_stop tree count selection hstop) later hlater

/-- However the tree changes between pulls, the paths that a selection gives are distinct and in the order
of the walk, they keep to the rules and to the limit, and none comes once the selection has ended or
failed. -/
theorem pulls_in_walk_order (selector : Selector) {start : Selection} (hstart : selector.select = .ok start)
    {history : List (FileTree × Nat)} (hnamed : ∀ pull ∈ history, pull.1.WellNamed) :
    (selector.pulled history start).Nodup ∧
    (selector.pulled history start).Pairwise Earlier ∧
    (∀ path ∈ selector.pulled history start, Eligible selector path) ∧
    (selector.pulled history start).length ≤ selector.limit.toNat ∧
    (selector.pulls history start).Pairwise fun batch later => batch.stop ≠ none → later.files = [] := by
  obtain ⟨last, hlast⟩ := sound_pulls (sound_select hstart) hnamed
  rw [List.nil_append] at hlast
  have hcount := hlast.count
  refine ⟨hlast.paths.imp Earlier.ne, hlast.paths, hlast.eligible, ?_, pulls_silent history start⟩
  omega

/-- A directory is emptied, and then replaced by a link to the one around it, while files beside it are
pulled. -/
theorem pulls_in_walk_order_of_replaced_directory :
    let file : Node := .ofBytes []
    let apps (inner : Node) : FileTree :=
      ⟨.directory [("apps", .directory [("web", inner), ("a.ts", file), ("b.tsx", file)])], [], Path.isAmong []⟩
    let history : List (FileTree × Nat) :=
      [(apps (.directory [("c.ts", file)]), 1), (apps (.directory []), 1), (apps (.link "."), 2)]
    let selector : Selector := { root := .ofString "." }
    selector.select = .ok ⟨500, some .fresh⟩ ∧ (∀ pull ∈ history, pull.1.WellNamed) ∧
    (selector.pulled history ⟨500, some .fresh⟩).Nodup ∧
    (selector.pulled history ⟨500, some .fresh⟩).Pairwise Earlier := by
  intro file apps history selector
  have hstart : selector.select = .ok ⟨500, some .fresh⟩ := by decide +kernel
  have hnamed : ∀ pull ∈ history, pull.1.WellNamed := by
    rw [List.forall_mem_cons, List.forall_mem_cons, List.forall_mem_cons]
    exact ⟨by decide +kernel, by decide +kernel, by decide +kernel, nofun⟩
  have hpulls := pulls_in_walk_order selector hstart hnamed
  exact ⟨hstart, hnamed, hpulls.1, hpulls.2.1⟩

end Selector

end PreMerge
