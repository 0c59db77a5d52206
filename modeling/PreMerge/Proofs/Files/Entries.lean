import PreMerge.Files.FileTree

/-! The names that a tree of files can hold, and the faults that it can give. No file system keeps an
entry without a name, or one whose name holds a slash or the null character; a tree of such names only is
well named (`FileTree.WellNamed`), and so is everything that is listed from it (`list_names`). Reading and
listing are refused by the system, unless the path holds the null character. -/

namespace PreMerge

theorem Path.hasNull_append {base : Path} (hbase : base.hasNull = false) (path : Path) :
    (base ++ path).hasNull = path.hasNull := by
  change (base.append path).hasNull = path.hasNull
  unfold append
  split
  · rw [hasNull, List.any_append, ← hasNull, ← hasNull, hbase, Bool.false_or]
  · rfl


namespace FileTree

/-- Whether a file system takes a name for an entry. -/
def isName (name : String) : Bool :=
  isEntryName name && name != "" && !name.toList.contains '/' && !name.toList.contains '\u0000'

theorem isEntryName_iff {name : String} : isEntryName name = true ↔ name ≠ "." ∧ name ≠ ".." := by
  rw [isEntryName, Bool.and_eq_true, bne_iff_ne, bne_iff_ne]

theorem isName_iff {name : String} : isName name = true ↔
    isEntryName name = true ∧ name ≠ "" ∧ '/' ∉ name.toList ∧ '\u0000' ∉ name.toList := by
  simp only [isName, Bool.and_eq_true, Bool.not_eq_true', List.contains_eq_mem, decide_eq_false_iff_not,
    bne_iff_ne, and_assoc, ne_eq]

theorem isEntryName_of_isName {name : String} (h : isName name = true) : isEntryName name = true :=
  (isName_iff.mp h).1

theorem slash_not_mem {name : String} (h : isName name = true) : '/' ∉ name.toList :=
  (isName_iff.mp h).2.2.1

theorem null_not_mem {name : String} (h : isName name = true) : '\u0000' ∉ name.toList :=
  (isName_iff.mp h).2.2.2

end FileTree

namespace Node

mutual

/-- Whether all names below a node are names of entries. -/
def wellNamed : Node → Bool
  | .directory entries => wellNamedAll entries
  | .file _ _ => true
  | .link _ => true

/-- Whether entries, and all that is below them, have names of entries. -/
def wellNamedAll : List (String × Node) → Bool
  | [] => true
  | (name, node) :: rest => FileTree.isName name && wellNamed node && wellNamedAll rest

end

theorem isName_of_mem_names {entries : List (String × Node)} (h : wellNamedAll entries = true) {name : String}
    (hname : name ∈ names entries) : FileTree.isName name = true := by
  induction entries with
  | nil => cases hname
  | cons entry rest ih =>
      obtain ⟨first, node⟩ := entry
      simp only [wellNamedAll, Bool.and_eq_true] at h
      rw [names, List.mem_cons] at hname
      rcases hname with rfl | hrest
      · exact h.1.1
      · exact ih h.2 (List.mem_filter.mp hrest).1

theorem wellNamed_of_find? {entries : List (String × Node)} (h : wellNamedAll entries = true) {name : String}
    {node : Node} (hfind : find? name entries = some node) : node.wellNamed = true := by
  induction entries with
  | nil => cases hfind
  | cons entry rest ih =>
      obtain ⟨first, inner⟩ := entry
      simp only [wellNamedAll, Bool.and_eq_true] at h
      rw [find?] at hfind
      split at hfind
      · cases hfind
        exact h.1.2
      · exact ih h.2 hfind

theorem wellNamed_at? {node inner : Node} {steps : List String} (h : node.wellNamed = true)
    (hat : node.at? steps = some inner) : inner.wellNamed = true := by
  induction steps generalizing node with
  | nil =>
      cases hat
      exact h
  | cons name rest ih =>
      cases node with
      | directory entries =>
          obtain ⟨child, hchild, hrest⟩ := Option.bind_eq_some_iff.mp hat
          exact ih (wellNamed_of_find? h hchild) hrest
      | file => cases hat
      | link => cases hat

theorem mem_names {entries : List (String × Node)} {name : String} :
    name ∈ names entries ↔ ∃ node, find? name entries = some node := by
  induction entries with
  | nil => simp [names, find?]
  | cons entry rest ih =>
      obtain ⟨first, node⟩ := entry
      by_cases hname : first = name
      · subst hname
        simp [names, find?]
      · simp [names, find?, hname, Ne.symm hname, ih]

/-- A chain of names that leads to a node is one of names of entries. -/
theorem isName_of_at? {node inner : Node} {steps : List String} (h : node.wellNamed = true)
    (hat : node.at? steps = some inner) : ∀ name ∈ steps, FileTree.isName name = true := by
  induction steps generalizing node with
  | nil => nofun
  | cons name rest ih =>
      cases node with
      | directory entries =>
          obtain ⟨child, hchild, hrest⟩ := Option.bind_eq_some_iff.mp hat
          refine List.forall_mem_cons.mpr ⟨?_, ih (wellNamed_of_find? h hchild) hrest⟩
          exact isName_of_mem_names h (mem_names.mpr ⟨child, hchild⟩)
      | file => cases hat
      | link => cases hat

theorem mem_of_find? {name : String} {node : Node} {entries : List (String × Node)}
    (h : find? name entries = some node) : (name, node) ∈ entries := by
  induction entries with
  | nil => cases h
  | cons entry rest ih =>
      obtain ⟨first, inner⟩ := entry
      rw [find?] at h
      split at h
      · next hname =>
          cases h
          rw [hname]
          exact List.mem_cons_self
      · exact List.mem_cons_of_mem _ (ih h)

/-- The way to a directory goes through directories. -/
theorem directory_of_at?_cons {name : String} {rest : List String} {entries inner : List (String × Node)}
    (h : (directory entries).at? (name :: rest) = some (.directory inner)) :
    ∃ middle, find? name entries = some (.directory middle) ∧
      (directory middle).at? rest = some (.directory inner) := by
  obtain ⟨node, hnode, hrest⟩ := Option.bind_eq_some_iff.mp h
  cases node with
  | directory middle => exact ⟨middle, hnode, hrest⟩
  | file => cases rest <;> cases hrest
  | link => cases rest <;> cases hrest

/-- Above a directory there are only directories. -/
theorem directory_of_at?_append {xs ys : List String} {node : Node} {inner : List (String × Node)}
    (h : node.at? (xs ++ ys) = some (.directory inner)) : ∃ entries, node.at? xs = some (.directory entries) := by
  rw [at?_append] at h
  obtain ⟨middle, hmiddle, hdown⟩ := Option.bind_eq_some_iff.mp h
  cases middle with
  | directory entries => exact ⟨entries, hmiddle⟩
  | file => cases ys <;> cases hdown
  | link => cases ys <;> cases hdown

theorem names_nodup (entries : List (String × Node)) : (names entries).Nodup := by
  induction entries with
  | nil => exact List.nodup_nil
  | cons entry rest ih =>
      rw [names, List.nodup_cons]
      refine ⟨fun hmem => ?_, ih.filter _⟩
      simpa using (List.mem_filter.mp hmem).2

end Node

namespace FileTree

/-- Whether a tree holds names of entries only. -/
def WellNamed (tree : FileTree) : Prop :=
  tree.root.wellNamed = true

instance (tree : FileTree) : Decidable tree.WellNamed :=
  inferInstanceAs (Decidable (tree.root.wellNamed = true))

theorem wellNamed_of_node? {tree : FileTree} (h : tree.WellNamed) {last : Bool} {path : Path} {shown : String}
    {node : Node} (hnode : tree.node? last path shown = .ok node) : node.wellNamed = true := by
  obtain ⟨place, -, hplace⟩ := node?_eq_ok.mp hnode
  exact Node.wellNamed_at? h hplace

theorem mem_listing_files {tree : FileTree} {path : Path} {shown name : String}
    {entries : List (String × Node)} :
    name ∈ (tree.listing path shown entries).files ↔ name ∈ Node.names entries ∧ isEntryName name = true ∧
      tree.entersDirectory path shown name (Node.find? name entries) = false := by
  simp only [listing, List.mem_filter, and_assoc, Bool.not_eq_true']

theorem mem_listing_directories {tree : FileTree} {path : Path} {shown name : String}
    {entries : List (String × Node)} :
    name ∈ (tree.listing path shown entries).directories ↔ name ∈ Node.names entries ∧
      isEntryName name = true ∧ tree.entersDirectory path shown name (Node.find? name entries) = true := by
  simp only [listing, List.mem_filter, and_assoc]

/-- Names that are listed differ from one another. -/
theorem listing_nodup (tree : FileTree) (path : Path) (shown : String) (entries : List (String × Node)) :
    (tree.listing path shown entries).files.Nodup ∧ (tree.listing path shown entries).directories.Nodup :=
  ⟨((Node.names_nodup entries).filter _).filter _, ((Node.names_nodup entries).filter _).filter _⟩

/-- All names that are listed are names of entries. -/
theorem list_names {tree : FileTree} (h : tree.WellNamed) {path : Path} {shown : String} {listing : Listing}
    (hlist : tree.list path shown = .ok listing) {name : String}
    (hname : name ∈ listing.files ∨ name ∈ listing.directories) : isName name = true := by
  obtain ⟨entries, hnode, rfl⟩ := list_eq_ok hlist
  have hentries : Node.wellNamedAll entries = true := wellNamed_of_node? h hnode
  rw [mem_listing_files, mem_listing_directories] at hname
  rcases hname with ⟨hmem, -⟩ | ⟨hmem, -⟩
  · exact Node.isName_of_mem_names hentries hmem
  · exact Node.isName_of_mem_names hentries hmem

/-- What is found at an entry of a directory, if it is no link that is followed. -/
theorem node?_entry {tree : FileTree} {last : Bool} {path : Path} {shown : String} {entries : List (String × Node)}
    (hpath : tree.node? true path shown = .ok (.directory entries)) {name : String} (hentry : isEntryName name = true)
    (hend : last = false ∨ ∀ target, Node.find? name entries ≠ some (.link target)) (longer : String) :
    tree.node? last (path.extend [name]) longer =
      if longer.utf8ByteSize < pathBound ∧ name.utf8ByteSize ≤ 255 then
        (Node.find? name entries).elim (.error .notFound) .ok
      else .error .nameTooLong := by
  obtain ⟨place, hplace, hat⟩ := node?_eq_ok.mp hpath
  obtain ⟨hdot, hup⟩ := isEntryName_iff.mp hentry
  by_cases hfits : longer.utf8ByteSize < pathBound
  · obtain ⟨left, hfollow⟩ := locate_extend hplace hat hfits last name
    by_cases hsize : name.utf8ByteSize > 255
    · rw [if_neg fun h => absurd h.2 (Nat.not_le.mpr hsize), node?, hfollow, follow, if_neg hdot, if_neg hup,
        if_pos hsize]
    · have hchild : tree.root.at? (place ++ [name]) = Node.find? name entries := by
        rw [Node.at?_append, hat, Option.bind_some, Node.at?_single]
      rw [if_pos ⟨hfits, Nat.not_lt.mp hsize⟩, node?, hfollow, follow, if_neg hdot, if_neg hup, if_neg hsize, hchild]
      cases hfind : Node.find? name entries with
      | none => rfl
      | some node =>
          rw [hfind] at hchild
          cases node with
          | file content runnable => simp [hchild]
          | directory inner => simp [follow, hchild]
          | link target =>
              have hlast : last = false := by
                rcases hend with hlast | hnot
                · exact hlast
                · exact absurd hfind (hnot target)
              simp [hlast, hchild]
  · rw [if_neg fun h => hfits h.1, node?, locate, if_neg hfits]

/-- An entry that is a directory itself is found as it is, with or without following a last link, if
anything is found there. -/
theorem node?_extend_of_directory {tree : FileTree} {path : Path} {shown longer name : String} {node : Node}
    {entries inner : List (String × Node)} (hentry : isEntryName name = true)
    (hpath : tree.node? true path shown = .ok (.directory entries))
    (hinner : Node.find? name entries = some (.directory inner))
    (hthere : tree.node? true (path.extend [name]) longer = .ok node) (last : Bool) :
    tree.node? last (path.extend [name]) longer = .ok (.directory inner) := by
  have hnot : ∀ target, Node.find? name entries ≠ some (.link target) := by
    intro target hlink
    rw [hinner] at hlink
    cases hlink
  rw [node?_entry hpath hentry (.inr hnot)] at hthere ⊢
  split at hthere
  · next hfits => rw [if_pos hfits, hinner, Option.elim_some]
  · cases hthere

theorem exists_list {tree : FileTree} {path : Path} {shown : String} (hnull : path.hasNull = false)
    (hdenied : tree.isDenied path = false) (hdirectory : tree.isDirectory path shown = true) :
    ∃ listing, tree.list path shown = .ok listing := by
  unfold isDirectory at hdirectory
  split at hdirectory
  · next entries hnode =>
      refine ⟨tree.listing path shown entries, ?_⟩
      rw [list, hnull, hdenied, hnode]
      rfl
  · cases hdirectory

theorem exists_list_iff {tree : FileTree} {path : Path} {shown : String} :
    (∃ listing, tree.list path shown = .ok listing) ↔
      path.hasNull = false ∧ tree.isDenied path = false ∧ tree.isDirectory path shown = true := by
  refine ⟨?_, fun ⟨hnull, hdenied, hdirectory⟩ => exists_list hnull hdenied hdirectory⟩
  rintro ⟨listing, h⟩
  obtain ⟨entries, hnode, -⟩ := list_eq_ok h
  unfold list at h
  split at h
  · cases h
  · next hnull =>
      split at h
      · cases h
      · next hdenied => exact ⟨by simpa using hnull, by simpa using hdenied, by rw [isDirectory, hnode]⟩

/-- Listing a directory is refused by the system, unless no path is like the one given. -/
theorem list_error {tree : FileTree} {path : Path} {shown : String} {fault : Fault}
    (h : tree.list path shown = .error fault) :
    path.hasNull = true ∧ fault = .nullInPath ∨ path.hasNull = false ∧ fault.kind = .system := by
  unfold list at h
  split at h
  · next hnull =>
      cases h
      exact .inl ⟨hnull, rfl⟩
  · next hnull =>
      refine .inr ⟨by simpa using hnull, ?_⟩
      split at h
      · cases h
        rfl
      · split at h
        · cases h
        · cases h
          rfl
        · cases h
          rfl

/-- Reading a file is refused by the system, unless no path is like the one given. -/
theorem read_error {tree : FileTree} {path : Path} {fault : Fault} (h : tree.read path = .error fault) :
    path.hasNull = true ∧ fault = .nullInPath ∨ path.hasNull = false ∧ fault.kind = .system := by
  unfold read at h
  split at h
  · next hnull =>
      cases h
      exact .inl ⟨hnull, rfl⟩
  · next hnull =>
      refine .inr ⟨by simpa using hnull, ?_⟩
      split at h
      · cases h
        rfl
      · split at h
        · cases h
        · cases h
          rfl
        · cases h
          rfl
        · cases h
          rfl

end FileTree

/-- A path through entries only is as short as it can be. -/
theorem Path.collapsed_of_entries (anchor : Anchor) {names : List String}
    (h : ∀ name ∈ names, FileTree.isEntryName name = true) : (Path.mk anchor names).collapsed = ⟨anchor, names⟩ := by
  have hfold : ∀ done : List String, names.foldl (collapseStep anchor) done = names.reverse ++ done := by
    induction names with
    | nil => exact fun _ => rfl
    | cons name rest ih =>
        obtain ⟨hname, hrest⟩ := List.forall_mem_cons.mp h
        have hup : name ≠ ".." := (FileTree.isEntryName_iff.mp hname).2
        intro done
        have hstep : collapseStep anchor done name = name :: done := if_pos hup
        rw [List.foldl_cons, hstep, ih hrest, List.reverse_cons, List.append_cons]
  rw [collapsed, hfold, List.append_nil, List.reverse_reverse]

end PreMerge
