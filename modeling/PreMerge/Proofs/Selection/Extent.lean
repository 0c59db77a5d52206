import PreMerge.Proofs.Selection.Directories
import PreMerge.Proofs.Selection.Pulls

/-! The extent of a walk over a tree that stays as it is. If the root and every directory that is to be
entered can be listed, the walk comes to its end and gives exactly the candidates of the tree, each once and
in order (`walk_extent`). The candidates are told from the tree itself: a chain of directories below the
root, none of them a link, and an entry of the last one that leads to no directory. -/

namespace PreMerge

namespace Selector

variable {selector : Selector} {tree : FileTree} {names : List String}

/-- An entry of a directory that neither is a directory nor a link that leads to one. -/
def HoldsFile (selector : Selector) (tree : FileTree) (names : List String) (file : String) : Prop :=
  ∃ entries, selector.directoryAt tree names = some entries ∧ file ∈ Node.names entries ∧
    tree.entersDirectory (selector.root.extend names) (selector.spelling names) file
      (Node.find? file entries) = false

/-- A file that is to be selected, given by the directories it lies below and by its name. -/
structure Candidate (selector : Selector) (tree : FileTree) (names : List String) (file : String) : Prop where
  inside : names ≠ []
  area : ∀ area ∈ names.head?, area ∈ selector.areas
  excluded : ∀ name ∈ names, name ∉ selector.excluded
  present : HoldsFile selector tree names file
  extension : ∃ extension ∈ selector.extensions, HasExtension file extension

/-- A walk that gives some files, one pull after the other, and then ends. -/
inductive Drains (selector : Selector) (tree : FileTree) : Walk → List String → Prop
  | ended {walk : Walk} (h : selector.pull tree walk = .ended) : Drains selector tree walk []
  | found {walk later : Walk} {file : String} {files : List String}
      (h : selector.pull tree walk = .found file later) (hrest : Drains selector tree later files) :
      Drains selector tree walk (file :: files)

theorem drains_of_trace {walk : Walk} {files : List String} (h : selector.trace tree walk = (files, none)) :
    Drains selector tree walk files := by
  induction files generalizing walk with
  | nil =>
      rw [trace_eq_pull] at h
      split at h
      · cases h
      · cases h
      · next hpull => exact .ended hpull
  | cons file files ih =>
      rw [trace_eq_pull] at h
      split at h
      · next found later hpull =>
          simp only [Prod.mk.injEq, List.cons.injEq] at h
          obtain ⟨⟨rfl, hfiles⟩, hfault⟩ := h
          exact .found hpull (ih (Prod.ext hfiles hfault))
      · cases h
      · cases h

theorem Candidate.enterable {file : String} (h : Candidate selector tree names file) (hnamed : tree.WellNamed) :
    Enterable selector names := by
  obtain ⟨entries, hentries, -, -⟩ := h.present
  exact ⟨(names_of_directoryAt hnamed hentries).1, h.area, h.excluded⟩

theorem listed_subset_trace (walk : Walk) : ∀ path ∈ walk.listed, path ∈ (selector.trace tree walk).1 := by
  intro path hpath
  obtain ⟨listed, pending⟩ := walk
  cases pending with
  | nil =>
      rw [trace]
      exact hpath
  | cons names rest =>
      cases hvisit : selector.visit tree names with
      | error fault =>
          rw [trace_of_error hvisit]
          exact hpath
      | ok listing =>
          rw [trace_of_ok hvisit]
          exact List.mem_append_left _ hpath

/-- A walk gives candidates only. -/
theorem candidate_of_met (hlistable : Listable selector tree)
    (hmet : Met selector tree names) {listing : Listing} (hvisit : selector.visit tree names = .ok listing)
    {path : String} (hpath : path ∈ listing.files) :
    ∃ file, Candidate selector tree names file ∧ path = pathText (names ++ [file]) := by
  rcases hmet.place with ⟨entries, hentries⟩ | hnothing
  · rw [visit_of_directoryAt hlistable hmet.enterable hentries] at hvisit
    cases hvisit
    obtain ⟨hne, file, hfile, hextension, rfl⟩ := mem_chosen.mp hpath
    obtain ⟨hmem, -, hleads⟩ := FileTree.mem_listing_files.mp hfile
    refine ⟨file, ⟨hne, hmet.enterable.area, hmet.enterable.excluded, ?_, ?_⟩, rfl⟩
    · exact ⟨entries, hentries, hmem, hleads⟩
    · exact ⟨extensionOf file, hextension, hasExtension_iff.mpr rfl⟩
  · rw [hnothing] at hvisit
    cases hvisit
    cases hpath

/-- A visit to the directory of a candidate gives the candidate. -/
theorem mem_visit_files {file : String} (hnamed : tree.WellNamed) (hlistable : Listable selector tree)
    (h : Candidate selector tree names file) {listing : Listing}
    (hvisit : selector.visit tree names = .ok listing) : pathText (names ++ [file]) ∈ listing.files := by
  obtain ⟨entries, hentries, hmem, hleads⟩ := h.present
  obtain ⟨extension, hextension, hhas⟩ := h.extension
  rw [visit_of_directoryAt hlistable (h.enterable hnamed) hentries] at hvisit
  cases hvisit
  refine mem_chosen.mpr ⟨h.inside, file, FileTree.mem_listing_files.mpr ⟨hmem, ?_, hleads⟩, ?_, rfl⟩
  · exact FileTree.isEntryName_of_isName ((names_of_directoryAt hnamed hentries).2 file hmem)
  · rwa [hasExtension_iff.mp hhas]

/-- A visit to a directory above a candidate goes on to the next one. -/
theorem mem_visit_directories {file directory : String} {more : List String} (hnamed : tree.WellNamed)
    (hlistable : Listable selector tree) (h : Candidate selector tree (names ++ directory :: more) file)
    {listing : Listing} (hvisit : selector.visit tree names = .ok listing) :
    directory ∈ listing.directories := by
  rw [List.append_cons] at h
  obtain ⟨entries, hentries, -, -⟩ := h.present
  obtain ⟨inner, hinner⟩ := directoryAt_of_append hentries
  obtain ⟨outer, houter, hfind⟩ := directoryAt_concat.mp hinner
  obtain ⟨hnames, hname, henters⟩ := enterable_concat.mp (h.enterable hnamed).of_append
  rw [visit_of_directoryAt hlistable hnames houter] at hvisit
  cases hvisit
  rw [(sorted_perm _).mem_iff, List.mem_filter, FileTree.mem_listing_directories]
  refine ⟨⟨Node.mem_names.mpr ⟨_, hfind⟩, FileTree.isEntryName_of_isName hname, ?_⟩, henters⟩
  rw [hfind]
  rfl

/-- A walk that comes to its end gives every candidate below the directories it has still to enter. -/
theorem mem_trace_of_candidate (hnamed : tree.WellNamed) (hlistable : Listable selector tree) (walk : Walk)
    (hend : (selector.trace tree walk).2 = none) {more : List String} (hnames : names ∈ walk.pending)
    {file : String} (h : Candidate selector tree (names ++ more) file) :
    pathText (names ++ more ++ [file]) ∈ (selector.trace tree walk).1 := by
  fun_induction trace selector tree walk generalizing names more with
  | case1 listed => cases hnames
  | case2 listed visited rest fault hvisit => cases hend
  | case3 listed visited rest listing hvisit later =>
      rename_i ih
      refine List.mem_append_right listed ?_
      rcases List.mem_cons.mp hnames with rfl | hrest
      · cases more with
        | nil =>
            rw [List.append_nil] at h ⊢
            exact listed_subset_trace _ _ (mem_visit_files hnamed hlistable h hvisit)
        | cons directory more =>
            have hdirectory := mem_visit_directories hnamed hlistable h hvisit
            rw [List.append_cons names directory more] at h ⊢
            exact ih hend (List.mem_append_left rest (List.mem_map_of_mem hdirectory)) h
      · exact ih hend (List.mem_append_right _ hrest) h

/-- What a walk has given and what it gives from there on are in order. -/
theorem trace_pairwise (hnamed : tree.WellNamed) (walk : Walk) {given : List String}
    (h : walk.Sound selector given) : (given ++ (selector.trace tree walk).1).Pairwise Earlier := by
  fun_induction trace selector tree walk generalizing given with
  | case1 listed => exact h.paths
  | case2 listed names rest fault hvisit => exact h.paths
  | case3 listed names rest listing hvisit later =>
      rename_i ih
      rw [← List.append_nil listed] at h
      rw [← List.append_assoc]
      exact ih (h.give.visit hnamed hvisit)

/-- If the root and every directory to be entered can be listed, the walk ends and gives the candidates of
the tree, each once, in the order of the walk. -/
theorem walk_extent (hnamed : tree.WellNamed) (hlistable : Listable selector tree) :
    ∃ files, selector.trace tree .fresh = (files, none) ∧ Drains selector tree .fresh files ∧
      (∀ path, path ∈ files ↔
        ∃ names file, Candidate selector tree names file ∧ path = pathText (names ++ [file])) ∧
      files.Nodup ∧ files.Pairwise Earlier := by
  have hfresh : ∀ names ∈ Walk.fresh.pending, Met selector tree names := by
    intro names hnames
    rw [List.mem_singleton.mp hnames]
    exact Met.root hlistable
  obtain ⟨hfault, hfiles⟩ := trace_of_closed
    (fun names listing hmet hvisit directory hdirectory => hmet.visit hnamed hlistable hvisit hdirectory)
    .fresh hfresh
  have hend : (selector.trace tree .fresh).2 = none := by
    cases hstop : (selector.trace tree .fresh).2 with
    | none => rfl
    | some fault =>
        obtain ⟨names, hmet, herror⟩ := hfault fault hstop
        obtain ⟨listing, hok⟩ := hmet.exists_visit hlistable
        rw [hok] at herror
        cases herror
  have htrace : selector.trace tree .fresh = ((selector.trace tree .fresh).1, none) := Prod.ext rfl hend
  have hsorted := trace_pairwise hnamed .fresh (Walk.Sound.fresh selector)
  refine ⟨_, htrace, drains_of_trace htrace, fun path => ⟨fun hpath => ?_, ?_⟩, hsorted.imp Earlier.ne, hsorted⟩
  · rcases hfiles path hpath with hpath | ⟨names, listing, hmet, hvisit, hpath⟩
    · cases hpath
    · obtain ⟨file, hcandidate⟩ := candidate_of_met hlistable hmet hvisit hpath
      exact ⟨names, file, hcandidate⟩
  · rintro ⟨names, file, hcandidate, rfl⟩
    exact mem_trace_of_candidate hnamed hlistable .fresh hend (List.mem_singleton.mpr rfl) hcandidate

/-- A directory with a link to the one above it, beside a link that leads nowhere. -/
theorem walk_extent_of_links :
    let web : List (String × Node) := [("b.ts", .ofBytes []), ("up", .link "..")]
    let apps : List (String × Node) := [("web", .directory web), ("gone.ts", .link "none")]
    let tree : FileTree := ⟨.directory [("apps", .directory apps)], [], Path.isAmong []⟩
    let selector : Selector := { root := .ofString "." }
    tree.WellNamed ∧ Listable selector tree ∧
    ∃ files, selector.trace tree .fresh = (files, none) ∧ "apps/web/b.ts" ∈ files ∧ files.Nodup := by
  intro web apps tree selector
  have hnamed : tree.WellNamed := by decide +kernel
  have hlistable : Listable selector tree := by
    intro names henterable hplace
    have hchain : names = [] ∨ names = ["apps"] ∨ names = ["apps", "web"] := by
      refine or_iff_not_imp_left.mpr fun hne => ?_
      obtain ⟨entries, hentries⟩ := Option.isSome_iff_exists.mp (hplace.resolve_left hne)
      obtain ⟨root, hroot, hat⟩ := directoryAt_eq_some.mp hentries
      cases hroot
      obtain ⟨first, names, rfl⟩ := List.exists_cons_of_ne_nil hne
      obtain ⟨inner, hinner, hat⟩ := Node.directory_of_at?_cons hat
      obtain ⟨rfl, rfl⟩ : first = "apps" ∧ inner = apps := by simpa using Node.mem_of_find? hinner
      cases names with
      | nil => exact .inl rfl
      | cons second names =>
          obtain ⟨inner, hinner, hat⟩ := Node.directory_of_at?_cons hat
          obtain ⟨rfl, rfl⟩ : second = "web" ∧ inner = web := by simpa [apps] using Node.mem_of_find? hinner
          cases names with
          | nil => exact .inr rfl
          | cons third names =>
              obtain ⟨inner, hinner, hat⟩ := Node.directory_of_at?_cons hat
              simpa [web, Node.ofBytes] using Node.mem_of_find? hinner
    rcases hchain with rfl | rfl | rfl
    · exact FileTree.exists_list (by decide +kernel) (by decide +kernel) (by decide +kernel)
    · exact FileTree.exists_list (by decide +kernel) (by decide +kernel) (by decide +kernel)
    · exact FileTree.exists_list (by decide +kernel) (by decide +kernel) (by decide +kernel)
  obtain ⟨files, htrace, -, hfiles, hnodup, -⟩ := walk_extent hnamed hlistable
  refine ⟨hnamed, hlistable, files, htrace, ?_, hnodup⟩
  refine (hfiles _).mpr ⟨["apps", "web"], "b.ts", ⟨by decide, by decide, by decide, ?_, ?_⟩, by decide +kernel⟩
  · exact ⟨_, rfl, by decide, rfl⟩
  · exact ⟨".ts", by decide, hasExtension_iff.mpr (by decide +kernel)⟩

end Selector

end PreMerge
