import Mathlib.Data.List.Induction
import PreMerge.Proofs.Selection.Visit

/-! Directories below a root that a walk can enter. A chain of names that leads through directories only
(`directoryAt`) is found as it stands, no link at its end, if the directories on the way can be listed
(`node?_of_directoryAt`); a visit there gives what the rules leave of the entries (`visit_of_directoryAt`).
A walk meets such directories, and links to directories, at which a visit gives nothing (`Met`). -/

namespace PreMerge

namespace Selector

variable {selector : Selector} {tree : FileTree} {names : List String}

/-- The entries of the directory that a chain of names leads to. The root may be found through links, but
no name of the chain is one. -/
def directoryAt (selector : Selector) (tree : FileTree) (names : List String) : Option (List (String × Node)) :=
  match tree.node? true selector.root selector.root.text with
  | .error _ => none
  | .ok root =>
    match root.at? names with
    | some (.directory entries) => some entries
    | _ => none

/-- The root and all directories that are to be entered can be listed. -/
def Listable (selector : Selector) (tree : FileTree) : Prop :=
  ∀ names, Enterable selector names → names = [] ∨ (selector.directoryAt tree names).isSome = true →
    ∃ listing, tree.list (selector.root.extend names) (selector.spelling names) = .ok listing

theorem exists_spelling_concat (selector : Selector) (names : List String) (name : String) :
    ∃ text, selector.spelling (names ++ [name]) = text ++ name := by
  cases names with
  | nil =>
      simp only [List.nil_append, spelling, String.intercalate_singleton, FileTree.spell]
      split
      · exact ⟨_, rfl⟩
      · exact ⟨_, rfl⟩
  | cons first more =>
      refine ⟨"/".intercalate (FileTree.spell selector.root.text first :: more) ++ "/", ?_⟩
      rw [List.cons_append, spelling, ← List.cons_append,
        String.intercalate_append_of_ne_nil (by simp) (by simp), String.intercalate_singleton]

/-- A path with one name more is spelt as its entries are. -/
theorem spelling_concat (hnames : ∀ name ∈ names, FileTree.isName name = true) (name : String) :
    selector.spelling (names ++ [name]) = FileTree.spell (selector.spelling names) name := by
  rcases List.eq_nil_or_concat names with rfl | ⟨init, last, rfl⟩
  · simp [spelling]
  · obtain ⟨text, htext⟩ := selector.exists_spelling_concat init last
    have hlast := hnames last (by simp)
    have hend : (selector.spelling (init ++ [last])).toList.getLast? ≠ some '/' := by
      rw [htext, String.toList_append, List.getLast?_append]
      cases hc : last.toList.getLast? with
      | none =>
          exact absurd (by simpa using hc) (FileTree.isName_iff.mp hlast).2.1
      | some c =>
          rintro ⟨⟩
          exact FileTree.slash_not_mem hlast (List.mem_of_getLast? hc)
    rw [List.concat_eq_append, FileTree.spell, if_neg hend]
    cases hinit : init ++ [last] with
    | nil => simp at hinit
    | cons first more =>
        rw [List.cons_append, spelling, ← List.cons_append,
          String.intercalate_append_of_ne_nil (by simp) (by simp), String.intercalate_singleton, spelling,
          String.append_assoc]

theorem directoryAt_eq_some {entries : List (String × Node)} :
    selector.directoryAt tree names = some entries ↔
      ∃ root, tree.node? true selector.root selector.root.text = .ok root ∧
        root.at? names = some (.directory entries) := by
  unfold directoryAt
  split
  · next hroot => simp [hroot]
  · next root hroot =>
      rw [hroot]
      split
      · next found hfound => simp [hfound]
      · next hother => simpa using hother entries

/-- On the way to a directory below the root there are only directories. -/
theorem directoryAt_of_append {more : List String} {inner : List (String × Node)}
    (h : selector.directoryAt tree (names ++ more) = some inner) :
    ∃ entries, selector.directoryAt tree names = some entries := by
  obtain ⟨root, hroot, hat⟩ := directoryAt_eq_some.mp h
  obtain ⟨entries, hentries⟩ := Node.directory_of_at?_append hat
  exact ⟨entries, directoryAt_eq_some.mpr ⟨root, hroot, hentries⟩⟩

theorem directoryAt_concat {name : String} {inner : List (String × Node)} :
    selector.directoryAt tree (names ++ [name]) = some inner ↔
      ∃ entries, selector.directoryAt tree names = some entries ∧
        Node.find? name entries = some (.directory inner) := by
  constructor
  · intro h
    obtain ⟨entries, hentries⟩ := directoryAt_of_append h
    obtain ⟨root, hroot, hat⟩ := directoryAt_eq_some.mp h
    obtain ⟨root', hroot', hat'⟩ := directoryAt_eq_some.mp hentries
    rw [hroot] at hroot'
    cases hroot'
    rw [Node.at?_append, hat', Option.bind_some, Node.at?_single] at hat
    exact ⟨entries, hentries, hat⟩
  · rintro ⟨entries, hentries, hfind⟩
    obtain ⟨root, hroot, hat⟩ := directoryAt_eq_some.mp hentries
    refine directoryAt_eq_some.mpr ⟨root, hroot, ?_⟩
    rw [Node.at?_append, hat, Option.bind_some, Node.at?_single]
    exact hfind

/-- All names on the way to a directory of a well named tree, and those of its entries, are names of
entries. -/
theorem names_of_directoryAt (hnamed : tree.WellNamed) {entries : List (String × Node)}
    (h : selector.directoryAt tree names = some entries) :
    (∀ name ∈ names, FileTree.isName name = true) ∧
      ∀ name ∈ Node.names entries, FileTree.isName name = true := by
  obtain ⟨root, hroot, hat⟩ := directoryAt_eq_some.mp h
  have hwell := FileTree.wellNamed_of_node? hnamed hroot
  have hentries : Node.wellNamedAll entries = true := Node.wellNamed_at? hwell hat
  exact ⟨Node.isName_of_at? hwell hat, fun name hname => Node.isName_of_mem_names hentries hname⟩

/-- A chain of directories that the rules let a walk enter is found as it stands. -/
theorem node?_of_directoryAt (hlistable : Listable selector tree) (hnames : Enterable selector names)
    {entries : List (String × Node)} (h : selector.directoryAt tree names = some entries) :
    tree.node? true (selector.root.extend names) (selector.spelling names) = .ok (.directory entries) ∧
      (names = [] ∨ tree.isLink (selector.root.extend names) (selector.spelling names) = false) := by
  induction names using List.reverseRecOn generalizing entries with
  | nil =>
      obtain ⟨root, hroot, hat⟩ := directoryAt_eq_some.mp h
      cases hat
      refine ⟨?_, .inl rfl⟩
      rw [Path.extend_nil]
      exact hroot
  | append_singleton init last ih =>
      obtain ⟨outer, houter, hfind⟩ := directoryAt_concat.mp h
      have hentry := FileTree.isEntryName_of_isName (hnames.isName last (by simp))
      obtain ⟨hfound, -⟩ := ih hnames.of_append houter
      obtain ⟨listing, hlist⟩ := hlistable _ hnames (.inr (by rw [h]; rfl))
      obtain ⟨there, hthere, -⟩ := FileTree.list_eq_ok hlist
      rw [← Path.extend_extend] at hthere ⊢
      have hnode := FileTree.node?_extend_of_directory hentry hfound hfind hthere
      refine ⟨hnode true, .inr ?_⟩
      rw [FileTree.isLink, hnode false]

theorem visit_of_directoryAt (hlistable : Listable selector tree) (hnames : Enterable selector names)
    {entries : List (String × Node)} (h : selector.directoryAt tree names = some entries) :
    selector.visit tree names =
      .ok ⟨selector.chosen names
          (tree.listing (selector.root.extend names) (selector.spelling names) entries).files,
        sorted ((tree.listing (selector.root.extend names) (selector.spelling names) entries).directories.filter
          (selector.enters names))⟩ := by
  obtain ⟨hnode, hlink⟩ := node?_of_directoryAt hlistable hnames h
  obtain ⟨listing, hlist⟩ := hlistable names hnames (.inr (by rw [h]; rfl))
  obtain ⟨found, hfound, rfl⟩ := FileTree.list_eq_ok hlist
  have hsame : found = entries := by
    rw [hnode] at hfound
    cases hfound
    rfl
  subst hsame
  have hno : ¬ selector.Passes tree names := by
    rintro ⟨hne, htrue⟩
    rcases hlink with hnil | hfalse
    · exact hne hnil
    · rw [hfalse] at htrue
      cases htrue
  rw [visit_of_not_passes hno, hlist]
  rfl

/-- What a walk meets: directories that may be entered, and links, at which it turns back. -/
structure Met (selector : Selector) (tree : FileTree) (names : List String) : Prop where
  enterable : Enterable selector names
  place : (∃ entries, selector.directoryAt tree names = some entries) ∨
    selector.visit tree names = .ok ⟨[], []⟩

namespace Met

theorem root (hlistable : Listable selector tree) : Met selector tree [] := by
  refine ⟨Enterable.root selector, .inl ?_⟩
  obtain ⟨listing, hlist⟩ := hlistable [] (Enterable.root selector) (.inl rfl)
  obtain ⟨entries, hnode, -⟩ := FileTree.list_eq_ok hlist
  rw [Path.extend_nil] at hnode
  exact ⟨entries, directoryAt_eq_some.mpr ⟨.directory entries, hnode, rfl⟩⟩

theorem exists_visit (h : Met selector tree names) (hlistable : Listable selector tree) :
    ∃ listing, selector.visit tree names = .ok listing := by
  rcases h.place with ⟨entries, hentries⟩ | hnothing
  · exact ⟨_, visit_of_directoryAt hlistable h.enterable hentries⟩
  · exact ⟨_, hnothing⟩

/-- A visit goes on to what a walk may meet. -/
theorem visit (h : Met selector tree names) (hnamed : tree.WellNamed) (hlistable : Listable selector tree)
    {listing : Listing} (hvisit : selector.visit tree names = .ok listing) {directory : String}
    (hdirectory : directory ∈ listing.directories) : Met selector tree (names ++ [directory]) := by
  have henterable := h.enterable.visit hnamed hvisit hdirectory
  refine ⟨henterable, ?_⟩
  rcases h.place with ⟨entries, hentries⟩ | hnothing
  · obtain ⟨hnode, -⟩ := node?_of_directoryAt hlistable h.enterable hentries
    rw [visit_of_directoryAt hlistable h.enterable hentries] at hvisit
    cases hvisit
    have hmem := (List.mem_filter.mp ((sorted_perm _).mem_iff.mp hdirectory)).1
    obtain ⟨-, hentry, henters⟩ := FileTree.mem_listing_directories.mp hmem
    cases hfind : Node.find? directory entries with
    | none =>
        rw [hfind] at henters
        cases henters
    | some node =>
        cases node with
        | directory inner => exact .inl ⟨inner, directoryAt_concat.mpr ⟨entries, hentries, hfind⟩⟩
        | file content runnable =>
            rw [hfind] at henters
            cases henters
        | link target =>
            -- The link is there at the end of the path, so the walk does not go through it.
            rw [hfind, FileTree.entersDirectory, FileTree.isDirectory] at henters
            split at henters
            · next inner hinner =>
                rw [← spelling_concat h.enterable.isName] at hinner
                have hlink := (FileTree.find?_of_node?_extend hentry hnode hinner).resolve_left
                  (by simp [hfind])
                rw [Path.extend_extend] at hlink
                exact .inr (visit_of_passes ⟨by simp, hlink⟩)
            · cases henters
  · rw [hnothing] at hvisit
    cases hvisit
    cases hdirectory

end Met

end Selector

end PreMerge
