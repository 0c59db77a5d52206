import PreMerge.Proofs.Files.Lookups
import PreMerge.Proofs.Selection.Visit
import PreMerge.Selection.Candidates

/-! What a walk does not see. Below an excluded directory, and in the root at and below what is no area, a tree may
be anything (`Hides`), and so may the bytes of files. Two trees that differ in nothing else are alike to a selector
(`Alike`), if what differs is on the way of no link and not on the way to the root. Then paths that the walk takes
lead to the same places (`Reached.locate_eq`), so its visits are the same (`visit_eq`), and so are the candidates
(`collect_eq_of_alike`). -/

namespace PreMerge

open FileTree (lookups linkBudget startOf stepsOf isEntryName follow)

namespace Selector

/-- Names that lead from the root to what a walk never looks at: to an entry of the root that is no area, or
below that, or below a directory that is excluded. -/
def Unseen (selector : Selector) (names : List String) : Prop :=
  (∃ first, names.head? = some first ∧ first ∉ selector.areas) ∨ ∃ name ∈ names.dropLast, name ∈ selector.excluded

/-- A place that a walk never looks at. -/
def Hides (selector : Selector) (tree : FileTree) (place : List String) : Prop :=
  ∃ base names, tree.locate true selector.root selector.root.text = .ok base ∧ place = base ++ names ∧
    selector.Unseen names

/-- Two trees that differ only where a walk never looks, in the bytes of files, and in whether files and directories
that it does not enter can be read. -/
structure Alike (selector : Selector) (first second : FileTree) : Prop where
  here : second.here = first.here
  outlines : ∀ place, selector.Hides first place ∨ second.root.outlineAt place = first.root.outlineAt place
  /-- Just one of the trees may refuse to read or list a path below the root if it is no area or below what is none, if
  one of its names is excluded, or if it leads to a file. -/
  denied : ∀ names, (∀ name ∈ names, isEntryName name = true) →
    (∃ first, names.head? = some first ∧ first ∉ selector.areas) ∨ (∃ name ∈ names, name ∈ selector.excluded) ∨
    (names ≠ [] ∧ ∃ shown content runnable,
      first.node? true (selector.root.extend names) shown = .ok (.file content runnable)) ∨
    second.isDenied (selector.root.extend names) = first.isDenied (selector.root.extend names)
  /-- What is looked up on the way to the root does not differ. -/
  root : ∀ place ∈ lookups first.root true linkBudget (first.start selector.root.anchor) selector.root.parts,
    second.root.outlineAt place = first.root.outlineAt place
  /-- What is looked up on the way of a link does not differ. -/
  links : ∀ place target, ¬ selector.Hides first place → first.root.outlineAt place = some (.link target) →
    ∀ other ∈ lookups first.root true linkBudget (startOf target place.dropLast) (stepsOf target),
      second.root.outlineAt other = first.root.outlineAt other

variable {selector : Selector} {first second : FileTree} {base names : List String} {name : String}

theorem not_unseen_nil (selector : Selector) : ¬ selector.Unseen [] := by
  rintro (⟨name, hname, -⟩ | ⟨name, hname, -⟩)
  · cases hname
  · cases hname

theorem Unseen.append (h : selector.Unseen names) (more : List String) : selector.Unseen (names ++ more) := by
  rcases h with ⟨area, harea, hno⟩ | ⟨name, hname, hexcluded⟩
  · refine .inl ⟨area, ?_, hno⟩
    rw [List.head?_append, harea, Option.some_or]
  · refine .inr ⟨name, ?_, hexcluded⟩
    cases more with
    | nil => rwa [List.append_nil]
    | cons next more =>
        rw [List.dropLast_append_of_ne_nil (List.cons_ne_nil next more)]
        exact List.mem_append_left _ (names.dropLast_subset hname)

theorem not_unseen_front (h : ¬ selector.Unseen names) {front : List String} (hfront : front <+: names) :
    ¬ selector.Unseen front := by
  obtain ⟨more, rfl⟩ := hfront
  exact fun hunseen => h (hunseen.append more)

/-- A directory that a walk enters does not hide its entries, except for the root. -/
theorem not_unseen_concat (h : ¬ selector.Unseen names)
    (hexcluded : ∀ directory ∈ names, directory ∉ selector.excluded) (harea : names = [] → name ∈ selector.areas) :
    ¬ selector.Unseen (names ++ [name]) := by
  rintro (⟨area, hhead, hno⟩ | ⟨directory, hmem, hyes⟩)
  · cases names with
    | nil =>
        cases hhead
        exact hno (harea rfl)
    | cons top rest => exact h (.inl ⟨area, hhead, hno⟩)
  · rw [List.dropLast_concat] at hmem
    exact hexcluded directory hmem hyes

theorem not_hides_append (hbase : first.locate true selector.root selector.root.text = .ok base)
    (h : ¬ selector.Unseen names) : ¬ selector.Hides first (base ++ names) := by
  rintro ⟨other, more, hother, heq, hunseen⟩
  obtain rfl := FileTree.locate_unique hbase hother
  obtain rfl := List.append_cancel_left heq
  exact h hunseen

namespace Alike

theorem outline_eq (h : selector.Alike first second)
    (hbase : first.locate true selector.root selector.root.text = .ok base) (hnames : ¬ selector.Unseen names) :
    second.root.outlineAt (base ++ names) = first.root.outlineAt (base ++ names) :=
  (h.outlines _).resolve_left (not_hides_append hbase hnames)

/-- Nothing above the root differs, and neither does the root. -/
theorem outline_eq_above (h : selector.Alike first second)
    (hbase : first.locate true selector.root selector.root.text = .ok base) {front : List String}
    (hfront : front <+: base) : second.root.outlineAt front = first.root.outlineAt front := by
  refine (h.outlines front).resolve_left ?_
  rintro ⟨other, more, hother, rfl, hunseen⟩
  obtain rfl := FileTree.locate_unique hbase hother
  obtain rfl : more = [] := by
    have hlength := hfront.length_le
    rw [List.length_append] at hlength
    exact List.length_eq_zero_iff.mp (by omega)
  exact not_unseen_nil selector hunseen

theorem locate_root (h : selector.Alike first second) (shown : String) :
    second.locate true selector.root shown = first.locate true selector.root shown :=
  FileTree.locate_congr h.here h.root shown

end Alike

/-- Names of an entry that a walk looks at, in a directory below the root that it has found. -/
structure Reached (selector : Selector) (tree : FileTree) (names : List String) : Prop where
  seen : ¬ selector.Unseen names
  entry : ∀ name ∈ names, isEntryName name = true
  inside : ∃ base init last shown entries, names = init ++ [last] ∧
    tree.locate true selector.root selector.root.text = .ok base ∧
    tree.locate true (selector.root.extend init) shown = .ok (base ++ init) ∧
    tree.root.at? (base ++ init) = some (.directory entries)

namespace Reached

/-- From the root on nothing is looked up that differs. -/
theorem onward (hnames : selector.Reached first names) (h : selector.Alike first second) :
    ∃ base left, first.locate true selector.root selector.root.text = .ok base ∧ ∀ last,
      follow first.root last linkBudget (first.start selector.root.anchor) (selector.root.parts ++ names) =
        follow first.root last left base names ∧
      lookups first.root last linkBudget (first.start selector.root.anchor) (selector.root.parts ++ names) =
        lookups first.root true linkBudget (first.start selector.root.anchor) selector.root.parts ++
          lookups first.root last left base names ∧
      ∀ place ∈ lookups first.root last left base names,
        second.root.outlineAt place = first.root.outlineAt place := by
  obtain ⟨base, init, last, shown, entries, rfl, hbase, -, hinit⟩ := hnames.inside
  obtain ⟨outer, houter⟩ := Node.directory_of_at?_append hinit
  have hdirectory : first.root.outlineAt base = some .directory := by
    rw [Node.outlineAt, houter]
    rfl
  obtain ⟨left, hleft, hmore⟩ := FileTree.follow_append (FileTree.locate_eq_ok.mp hbase).2 hdirectory
  refine ⟨base, left, hbase, fun always => ?_⟩
  obtain ⟨hfollow, hlookups⟩ := hmore always (init ++ [last]) (by simp)
  refine ⟨hfollow, hlookups, fun place hplace => ?_⟩
  rcases FileTree.mem_lookups_below hinit hnames.entry hplace with
    ⟨front, hfront, rfl⟩ | ⟨target, further, rfl, hfurther, hlink, hother⟩
  · exact h.outline_eq hbase (not_unseen_front hnames.seen hfront)
  · have hseen := not_hides_append hbase hnames.seen
    rw [List.append_assoc] at hlink
    refine h.links _ target hseen hlink place ?_
    rw [← List.append_assoc, List.dropLast_concat]
    exact FileTree.lookups_subset (Nat.le_trans hfurther hleft) hother

/-- Both trees have such an entry at the same place. -/
theorem locate_eq (hnames : selector.Reached first names) (h : selector.Alike first second) (last : Bool)
    (shown : String) :
    second.locate last (selector.root.extend names) shown = first.locate last (selector.root.extend names) shown := by
  obtain ⟨base, left, -, honward⟩ := hnames.onward h
  obtain ⟨-, hlookups, hagree⟩ := honward last
  refine FileTree.locate_congr h.here (fun place hplace => ?_) shown
  change place ∈ lookups first.root last linkBudget (first.start selector.root.anchor)
    (selector.root.parts ++ names) at hplace
  rw [hlookups] at hplace
  rcases List.mem_append.mp hplace with hroot | hbelow
  · exact h.root place hroot
  · exact hagree place hbelow

/-- Where such an entry leads to, the trees do not differ. -/
theorem outline_eq (hnames : selector.Reached first names) (h : selector.Alike first second) {last : Bool}
    {shown : String} {place : List String}
    (hplace : first.locate last (selector.root.extend names) shown = .ok place) :
    second.root.outlineAt place = first.root.outlineAt place := by
  obtain ⟨base, left, hbase, honward⟩ := hnames.onward h
  obtain ⟨hfollow, -, hagree⟩ := honward last
  have hthere : follow first.root last left base names = .ok place := by
    rw [← hfollow]
    exact (FileTree.locate_eq_ok.mp hplace).2
  -- A place is kept with all that is above it, since a path may go up.
  have hall : ∀ front, front <+: place → second.root.outlineAt front = first.root.outlineAt front := by
    refine FileTree.follow_closed (P := fun place => ∀ front, front <+: place →
      second.root.outlineAt front = first.root.outlineAt front) ?_ ?_ ?_ ?_ hthere
    · intro front hfront
      exact h.outline_eq_above hbase (hfront.trans (List.nil_prefix))
    · exact fun place hplace front hfront => hplace front (hfront.trans (List.dropLast_prefix place))
    · exact fun front hfront => h.outline_eq_above hbase hfront
    · intro place hmem habove front hfront
      rcases List.eq_nil_or_concat place with rfl | ⟨init, step, rfl⟩
      · exact habove front hfront
      · rw [List.concat_eq_append] at hmem habove hfront
        rw [List.dropLast_concat] at habove
        rcases List.prefix_concat_iff.mp hfront with rfl | hshorter
        · exact hagree _ hmem
        · exact habove front hshorter
  exact hall place (List.prefix_refl place)

theorem node?_eq (hnames : selector.Reached first names) (h : selector.Alike first second) (last : Bool)
    (shown : String) :
    (second.node? last (selector.root.extend names) shown).map Node.outline =
      (first.node? last (selector.root.extend names) shown).map Node.outline :=
  FileTree.node?_outline_congr (hnames.locate_eq h last shown) fun _ hplace => hnames.outline_eq h hplace

theorem isLink_eq (hnames : selector.Reached first names) (h : selector.Alike first second) (shown : String) :
    second.isLink (selector.root.extend names) shown = first.isLink (selector.root.extend names) shown := by
  rw [Bool.eq_iff_iff, FileTree.isLink_iff, FileTree.isLink_iff, hnames.node?_eq h]

theorem isDirectory_eq (hnames : selector.Reached first names) (h : selector.Alike first second) (shown : String) :
    second.isDirectory (selector.root.extend names) shown =
      first.isDirectory (selector.root.extend names) shown := by
  rw [Bool.eq_iff_iff, FileTree.isDirectory_iff, FileTree.isDirectory_iff, hnames.node?_eq h]

end Reached

/-- Directories, or links to such, that a walk is to read. -/
structure Awaited (selector : Selector) (tree : FileTree) (names : List String) : Prop where
  excluded : ∀ directory ∈ names, directory ∉ selector.excluded
  reached : names ≠ [] → selector.Reached tree names
  noFile : names ≠ [] → ∀ shown content runnable,
    tree.node? true (selector.root.extend names) shown ≠ .ok (.file content runnable)

namespace Awaited

theorem root (selector : Selector) (tree : FileTree) : selector.Awaited tree [] :=
  ⟨nofun, fun hne => absurd rfl hne, fun hne => absurd rfl hne⟩

theorem not_unseen (hnames : selector.Awaited first names) : ¬ selector.Unseen names := by
  by_cases hne : names = []
  · rw [hne]
    exact not_unseen_nil selector
  · exact (hnames.reached hne).seen

theorem entry (hnames : selector.Awaited first names) : ∀ name ∈ names, isEntryName name = true := by
  intro name hname
  exact (hnames.reached (List.ne_nil_of_mem hname)).entry name hname

theorem denied_eq (hnames : selector.Awaited first names) (h : selector.Alike first second) :
    second.isDenied (selector.root.extend names) = first.isDenied (selector.root.extend names) := by
  rcases h.denied names hnames.entry with
    harea | ⟨name, hname, hexcluded⟩ | ⟨hne, shown, content, runnable, hfile⟩ | hsame
  · exact absurd (.inl harea) hnames.not_unseen
  · exact absurd hexcluded (hnames.excluded name hname)
  · exact absurd hfile (hnames.noFile hne shown content runnable)
  · exact hsame

theorem locate_eq (hnames : selector.Awaited first names) (h : selector.Alike first second) (shown : String) :
    second.locate true (selector.root.extend names) shown = first.locate true (selector.root.extend names) shown := by
  by_cases hne : names = []
  · rw [hne, Path.extend_nil]
    exact h.locate_root shown
  · exact (hnames.reached hne).locate_eq h true shown

/-- What is to be read is in its place, if it is no link. -/
theorem place_eq (hnames : selector.Awaited first names) (hlink : ¬ selector.Passes first names) {place : List String}
    (hplace : first.locate true (selector.root.extend names) (selector.spelling names) = .ok place) :
    ∃ base, first.locate true selector.root selector.root.text = .ok base ∧ place = base ++ names := by
  by_cases hne : names = []
  · rw [hne, Path.extend_nil] at hplace
    exact ⟨place, hplace, by rw [hne, List.append_nil]⟩
  · have hreached := hnames.reached hne
    obtain ⟨base, init, last, shown, entries, rfl, hbase, hinit, hdirectory⟩ := hreached.inside
    rw [Passes, ← Path.extend_extend] at hlink
    rw [← Path.extend_extend] at hplace
    rcases FileTree.locate_entry hinit hdirectory (hreached.entry last (by simp)) hplace with rfl | ⟨-, -, hyes⟩
    · exact ⟨base, hbase, List.append_assoc ..⟩
    · exact absurd ⟨hne, hyes⟩ hlink

end Awaited

/-- A directory that is listed in both trees, at the same place. -/
structure Listed (selector : Selector) (first second : FileTree) (names : List String)
    (entries others : List (String × Node)) : Prop where
  awaited : selector.Awaited first names
  place : ∃ base, first.locate true selector.root selector.root.text = .ok base ∧
    first.locate true (selector.root.extend names) (selector.spelling names) = .ok (base ++ names) ∧
    first.root.at? (base ++ names) = some (.directory entries) ∧
    second.root.at? (base ++ names) = some (.directory others)

namespace Listed

variable {entries others : List (String × Node)}

theorem reached (hlisted : selector.Listed first second names entries others) (hentry : isEntryName name = true)
    (hseen : ¬ selector.Unseen (names ++ [name])) : selector.Reached first (names ++ [name]) := by
  obtain ⟨base, hbase, hlocate, hfirst, -⟩ := hlisted.place
  refine ⟨hseen, ?_, base, names, name, selector.spelling names, entries, rfl, hbase, hlocate, hfirst⟩
  exact List.forall_mem_append.mpr ⟨hlisted.awaited.entry, List.forall_mem_singleton.mpr hentry⟩

theorem find?_eq (hlisted : selector.Listed first second names entries others) (h : selector.Alike first second)
    (hseen : ¬ selector.Unseen (names ++ [name])) :
    (Node.find? name others).map Node.outline = (Node.find? name entries).map Node.outline := by
  obtain ⟨base, hbase, -, hfirst, hsecond⟩ := hlisted.place
  rw [← Node.outlineAt_append_single hfirst, ← Node.outlineAt_append_single hsecond, List.append_assoc]
  exact h.outline_eq hbase hseen

/-- Entries that the walk looks at count for the same in both trees. -/
theorem enters_eq (hlisted : selector.Listed first second names entries others) (h : selector.Alike first second)
    (hentry : isEntryName name = true) (hseen : ¬ selector.Unseen (names ++ [name])) :
    second.entersDirectory (selector.root.extend names) (selector.spelling names) name (Node.find? name others) =
      first.entersDirectory (selector.root.extend names) (selector.spelling names) name
        (Node.find? name entries) := by
  apply FileTree.entersDirectory_congr (hlisted.find?_eq h hseen)
  intro target _
  rw [Path.extend_extend]
  exact (hlisted.reached hentry hseen).isDirectory_eq h _

theorem mem_files_iff (hlisted : selector.Listed first second names entries others) (h : selector.Alike first second)
    (hseen : ¬ selector.Unseen (names ++ [name])) :
    name ∈ (second.listing (selector.root.extend names) (selector.spelling names) others).files ↔
      name ∈ (first.listing (selector.root.extend names) (selector.spelling names) entries).files := by
  rw [FileTree.mem_listing_files, FileTree.mem_listing_files, FileTree.mem_names_congr (hlisted.find?_eq h hseen)]
  refine and_congr_right fun _ => and_congr_right fun hentry => ?_
  rw [hlisted.enters_eq h hentry hseen]

theorem mem_directories_iff (hlisted : selector.Listed first second names entries others)
    (h : selector.Alike first second) (hseen : ¬ selector.Unseen (names ++ [name])) :
    name ∈ (second.listing (selector.root.extend names) (selector.spelling names) others).directories ↔
      name ∈ (first.listing (selector.root.extend names) (selector.spelling names) entries).directories := by
  rw [FileTree.mem_listing_directories, FileTree.mem_listing_directories,
    FileTree.mem_names_congr (hlisted.find?_eq h hseen)]
  refine and_congr_right fun _ => and_congr_right fun hentry => ?_
  rw [hlisted.enters_eq h hentry hseen]

/-- What is selected is the same, also in the root, where there are no files. -/
theorem selected_eq (hlisted : selector.Listed first second names entries others) (h : selector.Alike first second) :
    selector.selected names (second.listing (selector.root.extend names) (selector.spelling names) others) =
      selector.selected names (first.listing (selector.root.extend names) (selector.spelling names) entries) := by
  apply selected_congr (FileTree.listing_nodup ..) (FileTree.listing_nodup ..)
  · intro hne name
    exact hlisted.mem_files_iff h
      (not_unseen_concat hlisted.awaited.not_unseen hlisted.awaited.excluded fun hnil => absurd hnil hne)
  · intro name henters
    exact hlisted.mem_directories_iff h
      (not_unseen_concat hlisted.awaited.not_unseen hlisted.awaited.excluded (enters_iff.mp henters).2)

end Listed

namespace Awaited

theorem list_cases (hnames : selector.Awaited first names) (h : selector.Alike first second)
    (hlink : ¬ selector.Passes first names) :
    (∃ fault, first.list (selector.root.extend names) (selector.spelling names) = .error fault ∧
      second.list (selector.root.extend names) (selector.spelling names) = .error fault) ∨
    ∃ entries others, selector.Listed first second names entries others ∧
      first.list (selector.root.extend names) (selector.spelling names) =
        .ok (first.listing (selector.root.extend names) (selector.spelling names) entries) ∧
      second.list (selector.root.extend names) (selector.spelling names) =
        .ok (second.listing (selector.root.extend names) (selector.spelling names) others) := by
  have hlocate := hnames.locate_eq h (selector.spelling names)
  have hnode := FileTree.node?_outline_congr hlocate fun place hplace => by
    obtain ⟨base, hbase, rfl⟩ := hnames.place_eq hlink hplace
    exact h.outline_eq hbase hnames.not_unseen
  rcases FileTree.list_congr (hnames.denied_eq h) hnode with hfault | ⟨entries, others, hfirst, hsecond, hlists⟩
  · exact .inl hfault
  · obtain ⟨place, hplace, hat⟩ := FileTree.node?_eq_ok.mp hfirst
    obtain ⟨other, hother, hotherAt⟩ := FileTree.node?_eq_ok.mp hsecond
    rw [hlocate] at hother
    obtain rfl := FileTree.locate_unique hplace hother
    obtain ⟨base, hbase, rfl⟩ := hnames.place_eq hlink hplace
    exact .inr ⟨entries, others, ⟨hnames, base, hbase, hplace, hat, hotherAt⟩, hlists⟩

theorem visit_eq (hnames : selector.Awaited first names) (h : selector.Alike first second) :
    selector.visit second names = selector.visit first names := by
  have hsame : selector.Passes second names ↔ selector.Passes first names := by
    refine and_congr_right fun hne => ?_
    rw [(hnames.reached hne).isLink_eq h]
  by_cases hlink : selector.Passes first names
  · rw [visit_of_passes hlink, visit_of_passes (hsame.mpr hlink)]
  · rw [visit_of_not_passes hlink, visit_of_not_passes (mt hsame.mp hlink)]
    rcases hnames.list_cases h hlink with ⟨fault, hfirst, hsecond⟩ | ⟨entries, others, hlisted, hfirst, hsecond⟩
    · rw [hfirst, hsecond]
    · rw [hfirst, hsecond]
      exact congrArg Except.ok (hlisted.selected_eq h)

/-- A walk goes on to directories that it is to read. -/
theorem visit (hnames : selector.Awaited first names) (h : selector.Alike first second) {listing : Listing}
    (hvisit : selector.visit first names = .ok listing) {directory : String}
    (hdirectory : directory ∈ listing.directories) : selector.Awaited first (names ++ [directory]) := by
  by_cases hlink : selector.Passes first names
  · rw [visit_of_passes hlink] at hvisit
    cases hvisit
    cases hdirectory
  · rw [visit_of_not_passes hlink] at hvisit
    rcases hnames.list_cases h hlink with ⟨fault, hfirst, -⟩ | ⟨entries, others, hlisted, hfirst, -⟩
    · rw [hfirst] at hvisit
      cases hvisit
    · rw [hfirst] at hvisit
      cases hvisit
      obtain ⟨hmem, henters⟩ := List.mem_filter.mp ((sorted_perm _).mem_iff.mp hdirectory)
      obtain ⟨hexcluded, harea⟩ := enters_iff.mp henters
      obtain ⟨-, hentry, hleads⟩ := FileTree.mem_listing_directories.mp hmem
      have hseen := not_unseen_concat hnames.not_unseen hnames.excluded harea
      refine ⟨?_, fun _ => hlisted.reached hentry hseen, fun _ shown content runnable hfile => ?_⟩
      · exact List.forall_mem_append.mpr ⟨hnames.excluded, List.forall_mem_singleton.mpr hexcluded⟩
      obtain ⟨base, -, hlocate, hat, -⟩ := hlisted.place
      obtain ⟨place, hplace, hthere⟩ := FileTree.node?_eq_ok.mp hfile
      rw [← Path.extend_extend] at hplace
      have houtline := Node.outlineAt_append_single hat directory
      rcases FileTree.locate_entry hlocate hat hentry hplace with rfl | ⟨target, htarget, -⟩
      · -- A file does not lead to a directory.
        rw [Node.at?_append, hat, Option.bind_some, Node.at?_single] at hthere
        have hfind : Node.find? directory entries = some (.file content runnable) := hthere
        rw [hfind] at hleads
        cases hleads
      · -- The link leads to a directory, so it does not lead to a file.
        rw [houtline, Option.map_eq_some_iff] at htarget
        obtain ⟨node, hfind, hnode⟩ := htarget
        rw [hfind, Node.outline_eq_link.mp hnode] at hleads
        obtain ⟨other, inner, hother, hinner⟩ := FileTree.exists_directory_of_isDirectory hleads
        rw [FileTree.locate_unique hplace hother, hinner] at hthere
        cases hthere

end Awaited

/-- What a walk never looks at does not change the candidates, nor the error or the record of their selection:
whatever is below excluded directories, and at or below entries of the root that are no areas, whether these can be
listed, and the bytes of files and whether they can be read. -/
theorem collect_eq_of_alike (h : selector.Alike first second) (stamp : Option Fault) :
    selector.collect second stamp = selector.collect first stamp := by
  have htrace : selector.trace second .fresh = selector.trace first .fresh := by
    refine trace_congr (P := selector.Awaited first) ?_ (fun names hnames => hnames.visit_eq h) .fresh ?_
    · exact fun names listing hnames hvisit directory hdirectory => hnames.visit h hvisit hdirectory
    · exact List.forall_mem_singleton.mpr (Awaited.root selector first)
  unfold collect
  rw [htrace]

/-- An excluded directory that is filled and cannot be listed, one that appears beside the area, and a file with other
bytes that can be read now; a link goes past all that. -/
theorem collect_eq_of_alike_past_excluded :
    let selector : Selector := { root := .ofString ".", areas := ["apps"] }
    let apps (bytes : List UInt8) (inner : Node) : Node :=
      .directory [("a.ts", .ofBytes bytes), ("dist", inner), ("up", .link "../apps")]
    let first : FileTree := ⟨.directory [("apps", apps [0x31] .empty)], [],
      Path.isAmong [⟨.here, ["apps", "a.ts"]⟩]⟩
    let second : FileTree :=
      ⟨.directory [("docs", .empty), ("apps", apps [0x32] (.directory [("b.ts", .ofBytes [])]))], [],
        Path.isAmong [⟨.here, ["docs"]⟩, ⟨.here, ["apps", "dist"]⟩]⟩
    selector.Alike first second ∧ selector.collect second = selector.collect first := by
  intro selector apps first second
  have hbase : first.locate true selector.root selector.root.text = .ok [] := by decide +kernel
  -- All that the walk looks at is in both trees or in neither.
  have hplaces : ∀ place, selector.Unseen place ∨
      place ∈ [[], ["apps"], ["apps", "a.ts"], ["apps", "dist"], ["apps", "up"]] ∨
      first.root.outlineAt place = none ∧ second.root.outlineAt place = none := by
    intro place
    rcases place with _ | ⟨area, rest⟩
    · exact .inr (.inl (by decide))
    by_cases happs : area = "apps"
    · subst happs
      rcases rest with _ | ⟨entry, rest⟩
      · exact .inr (.inl (by decide))
      by_cases hentry : entry = "a.ts" ∨ entry = "dist" ∨ entry = "up"
      · rcases rest with _ | ⟨inner, rest⟩
        · exact .inr (.inl (by simpa using hentry))
        · rcases hentry with rfl | rfl | rfl
          · exact .inr (.inr ⟨rfl, rfl⟩)
          · exact .inl (.inr ⟨"dist", by simp, by decide⟩)
          · exact .inr (.inr ⟨rfl, rfl⟩)
      · simp only [not_or] at hentry
        exact .inr (.inr (by simp [first, second, apps, Node.outlineAt, Node.at?, Node.find?, Ne.symm hentry.1,
          Ne.symm hentry.2.1, Ne.symm hentry.2.2]))
    · exact .inl (.inl ⟨area, rfl, by simpa [selector] using happs⟩)
  have halike : selector.Alike first second := by
    refine ⟨rfl, ?_, ?_, ?_, ?_⟩
    · intro place
      rcases hplaces place with hunseen | hmem | ⟨hfirst, hsecond⟩
      · exact .inl ⟨[], place, hbase, rfl, hunseen⟩
      · simp only [List.mem_cons, List.not_mem_nil, or_false] at hmem
        rcases hmem with rfl | rfl | rfl | rfl | rfl <;> exact .inr rfl
      · exact .inr (hsecond.trans hfirst.symm)
    · intro names hentry
      have hamong : ∀ paths : List Path,
          Path.isAmong paths (selector.root.extend names) = true ↔ ⟨.here, names⟩ ∈ paths := by
        intro paths
        have hpath : selector.root.extend names = ⟨.here, names⟩ := rfl
        rw [Path.isAmong, hpath, Path.collapsed_of_entries .here hentry, List.contains_iff_mem]
      by_cases hfile : names = ["apps", "a.ts"]
      · subst hfile
        exact .inr (.inr (.inl ⟨List.cons_ne_nil _ _, "", _, _, rfl⟩))
      by_cases hother : names = ["docs"] ∨ names = ["apps", "dist"]
      · rcases hother with rfl | rfl
        · exact .inl ⟨"docs", rfl, by decide⟩
        · exact .inr (.inl ⟨"dist", by simp, by decide⟩)
      · rw [FileTree.isDenied, FileTree.isDenied, Bool.eq_iff_iff, hamong, hamong]
        exact .inr (.inr (.inr (by simpa [hfile] using hother)))
    · intro place hplace
      have hnone : lookups first.root true linkBudget (first.start selector.root.anchor) selector.root.parts = [] := by
        show lookups first.root true linkBudget [] [] = []
        rw [lookups]
      rw [hnone] at hplace
      cases hplace
    · intro place target hseen hlink other hother
      obtain ⟨rfl, rfl⟩ : place = ["apps", "up"] ∧ target = "../apps" := by
        rcases hplaces place with hunseen | hmem | ⟨hfirst, -⟩
        · exact absurd ⟨[], place, hbase, rfl, hunseen⟩ hseen
        · simp only [List.mem_cons, List.not_mem_nil, or_false] at hmem
          rcases hmem with rfl | rfl | rfl | rfl | rfl <;> cases hlink
          exact ⟨rfl, rfl⟩
        · rw [hfirst] at hlink
          cases hlink
      have hsteps : stepsOf "../apps" = ["..", "apps"] ∧ startOf "../apps" ["apps"] = ["apps"] := by decide +kernel
      have hup : ["apps", "up"].dropLast = ["apps"] ∧ ["apps"].dropLast = ([] : List String) := ⟨rfl, rfl⟩
      have happs : first.root.outlineAt ([] ++ ["apps"]) = some .directory := rfl
      rw [hup.1, hsteps.1, hsteps.2, lookups, if_neg (by decide), if_pos rfl, hup.2,
        FileTree.lookups_cons [] (by decide) (by decide) (by decide), happs] at hother
      dsimp only at hother
      rw [lookups] at hother
      obtain rfl := List.mem_singleton.mp hother
      rfl
  exact ⟨halike, collect_eq_of_alike halike none⟩

end Selector

end PreMerge
