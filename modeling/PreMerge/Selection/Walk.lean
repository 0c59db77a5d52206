import PreMerge.Selection.Selector

/-! The walk below a root: the files of a directory first, then its directories one after the other.
A directory is read when the walk reaches it. Main statements: a directory that is read is worth more
than the directories it adds (`reachAll_visit_lt`), so the walk ends; and pulling one file after the
other gives the whole walk (`trace_eq_pull`). -/

namespace PreMerge

/-- A walk under way: files that are selected and not yet given, and directories that are not yet
read. -/
structure Walk where
  listed : List String
  pending : List (List String)
  deriving DecidableEq, Repr

/-- What a walk gives next. -/
inductive Pulled
  | found (file : String) (walk : Walk)
  | failed (fault : Fault)
  | ended
  deriving DecidableEq, Repr

namespace Selector

/-- How many entries the walk may meet in a directory that is not yet read. -/
def reach (selector : Selector) (tree : FileTree) (names : List String) : Nat :=
  let path := selector.root.extend names
  let shown := selector.spelling names
  if names ≠ [] ∧ tree.isLink path shown then 0
  else match tree.node? true path shown with
    | .error _ => 0
    | .ok node => node.weight

/-- A bound for what the walk may still meet. -/
def reachAll (selector : Selector) (tree : FileTree) (pending : List (List String)) : Nat :=
  Node.sumOf (fun names => 1 + selector.reach tree names) pending

/-- An entry of a directory is worth no more than the directory's entry of that name. -/
theorem reach_entry_le (selector : Selector) {tree : FileTree} {names : List String}
    {entries : List (String × Node)} {name : String} (isEntry : FileTree.isEntryName name = true)
    (directory : tree.node? true (selector.root.extend names) (selector.spelling names) =
      .ok (.directory entries)) :
    selector.reach tree (names ++ [name]) ≤ Node.weightOf entries name := by
  simp only [reach, ← Path.extend_extend]
  split
  · exact Nat.zero_le _
  · next notLink =>
    split
    · exact Nat.zero_le _
    · next node found =>
      rcases FileTree.find?_of_node?_extend isEntry directory found with entry | link
      · simp [Node.weightOf, entry]
      · exact absurd ⟨by simp, link⟩ notLink

private theorem sum_entered_le (selector : Selector) {tree : FileTree} {names : List String}
    {entries : List (String × Node)}
    (directory : tree.node? true (selector.root.extend names) (selector.spelling names) =
      .ok (.directory entries))
    (inside : List String) (areEntries : ∀ name ∈ inside, FileTree.isEntryName name) :
    selector.reachAll tree (inside.map (names ++ [·])) ≤
      Node.sumOf (fun name => 1 + Node.weightOf entries name) inside := by
  induction inside with
  | nil => simp [reachAll, Node.sumOf]
  | cons name rest ih =>
    have head := selector.reach_entry_le (areEntries name (by simp)) directory
    have tail := ih fun other member => areEntries other (by simp [member])
    simp only [reachAll, List.map_cons, Node.sumOf] at tail ⊢
    omega

/-- What is read from a directory is worth less than the directory. -/
theorem reachAll_visit_lt {selector : Selector} {tree : FileTree} {names : List String} {listing : Listing}
    (h : selector.visit tree names = .ok listing) (rest : List (List String)) :
    selector.reachAll tree (listing.directories.map (names ++ [·]) ++ rest) <
      selector.reachAll tree (names :: rest) := by
  suffices selector.reachAll tree (listing.directories.map (names ++ [·])) ≤ selector.reach tree names by
    simp only [reachAll, Node.sumOf_append, Node.sumOf] at this ⊢
    omega
  simp only [visit] at h
  split at h
  · cases h
    exact Nat.zero_le _
  · next notLink =>
    split at h
    · cases h
    · next all listed =>
      cases h
      obtain ⟨entries, directory, rfl⟩ := FileTree.list_eq_ok listed
      have worth : selector.reach tree names = Node.weightAll entries := by
        simp only [reach, if_neg notLink, directory, Node.weight]
      rw [worth]
      refine Nat.le_trans (sum_entered_le selector directory _ ?_)
        (Nat.le_trans ?_ (Node.sum_names_le entries))
      · intro name member
        simp only [sorted, FileTree.listing, List.mem_mergeSort, List.mem_filter] at member
        exact member.1.1.2
      · rw [sorted, Node.sumOf_perm _ (List.mergeSort_perm _ _)]
        exact Nat.le_trans (Node.sumOf_filter_le ..)
          (Nat.le_trans (Node.sumOf_filter_le ..) (Node.sumOf_filter_le ..))

/-- All that a walk gives if the tree stays as it is, and the fault that ends it early. -/
def trace (selector : Selector) (tree : FileTree) (walk : Walk) : List String × Option Fault :=
  match walk with
  | ⟨listed, []⟩ => (listed, none)
  | ⟨listed, names :: rest⟩ =>
    match _visited : selector.visit tree names with
    | .error fault => (listed, some fault)
    | .ok listing =>
      let later := selector.trace tree ⟨listing.files, listing.directories.map (names ++ [·]) ++ rest⟩
      (listed ++ later.1, later.2)
  termination_by selector.reachAll tree walk.pending
  decreasing_by exact reachAll_visit_lt _visited rest

/-- The next file of a walk. -/
def pull (selector : Selector) (tree : FileTree) (walk : Walk) : Pulled :=
  match walk with
  | ⟨file :: listed, pending⟩ => .found file ⟨listed, pending⟩
  | ⟨[], []⟩ => .ended
  | ⟨[], names :: rest⟩ =>
    match _visited : selector.visit tree names with
    | .error fault => .failed fault
    | .ok listing => selector.pull tree ⟨listing.files, listing.directories.map (names ++ [·]) ++ rest⟩
  termination_by selector.reachAll tree walk.pending
  decreasing_by exact reachAll_visit_lt _visited rest

theorem trace_of_error {selector : Selector} {tree : FileTree} {names : List String} {fault : Fault}
    (h : selector.visit tree names = .error fault) (listed : List String) (rest : List (List String)) :
    selector.trace tree ⟨listed, names :: rest⟩ = (listed, some fault) := by
  rw [trace]
  split <;> simp_all

theorem trace_of_ok {selector : Selector} {tree : FileTree} {names : List String} {listing : Listing}
    (h : selector.visit tree names = .ok listing) (listed : List String) (rest : List (List String)) :
    selector.trace tree ⟨listed, names :: rest⟩ =
      (listed ++ (selector.trace tree ⟨listing.files, listing.directories.map (names ++ [·]) ++ rest⟩).1,
        (selector.trace tree ⟨listing.files, listing.directories.map (names ++ [·]) ++ rest⟩).2) := by
  rw [trace]
  split <;> simp_all

theorem trace_cons (selector : Selector) (tree : FileTree) (file : String) (listed : List String)
    (pending : List (List String)) :
    selector.trace tree ⟨file :: listed, pending⟩ =
      (file :: (selector.trace tree ⟨listed, pending⟩).1, (selector.trace tree ⟨listed, pending⟩).2) := by
  cases pending with
  | nil => simp [trace]
  | cons names rest =>
    cases h : selector.visit tree names with
    | error fault => simp [trace_of_error h]
    | ok listing => simp [trace_of_ok h]

/-- A walk is its next file and the walk from there. -/
theorem trace_eq_pull (selector : Selector) (tree : FileTree) (walk : Walk) :
    selector.trace tree walk = match selector.pull tree walk with
      | .found file later => (file :: (selector.trace tree later).1, (selector.trace tree later).2)
      | .failed fault => ([], some fault)
      | .ended => ([], none) := by
  fun_induction pull selector tree walk with
  | case1 file listed pending => exact trace_cons ..
  | case2 => simp [trace]
  | case3 names rest fault visited => exact trace_of_error visited ..
  | case4 names rest listing visited ih => simp [trace_of_ok visited, ← ih]

end Selector

end PreMerge
