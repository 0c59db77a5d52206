import Mathlib.Data.List.TakeWhile
import PreMerge.Proofs.Selection.Order
import PreMerge.Selection.Walk

/-! What a visit to a directory can give. The files it selects are eligible by their paths alone
(`Eligible`), and the directories it enters lead to no other: areas of the root at the top, and nothing
that is excluded. A property of directories that visits hand on to the directories they enter holds of all
that a walk meets (`trace_of_closed`). -/

namespace PreMerge

namespace Selector

/-- The extension of a name: what stands from its last dot on, if some other character stands before that
dot, and nothing else. -/
def HasExtension (name extension : String) : Prop :=
  (∃ stem tail, name.toList = stem ++ '.' :: tail ∧ '.' ∉ tail ∧ (∃ c ∈ stem, c ≠ '.') ∧
    extension = String.ofList ('.' :: tail)) ∨
  (∀ stem tail, name.toList = stem ++ '.' :: tail → '.' ∉ tail → ∀ c ∈ stem, c = '.') ∧ extension = ""

/-- The part behind the last dot, and what comes before that dot. -/
theorem extensionOf_of_dot {name : String} {stem tail : List Char} (hname : name.toList = stem ++ '.' :: tail)
    (htail : '.' ∉ tail) :
    extensionOf name = if stem.any (· != '.') then String.ofList ('.' :: tail) else "" := by
  have hreverse : name.toList.reverse = tail.reverse ++ '.' :: stem.reverse := by simp [hname]
  have hall : ∀ c ∈ tail.reverse, (c != '.') = true := by
    intro c hc
    rw [bne_iff_ne]
    rintro rfl
    exact htail (List.mem_reverse.mp hc)
  have htake : name.toList.reverse.takeWhile (· != '.') = tail.reverse := by
    rw [hreverse, List.takeWhile_append_of_pos hall, List.takeWhile_cons_of_neg (by simp), List.append_nil]
  have hdrop : name.toList.reverse.dropWhile (· != '.') = '.' :: stem.reverse := by
    rw [hreverse, List.dropWhile_append_of_pos hall, List.dropWhile_cons_of_neg (by simp)]
  simp only [extensionOf, htake, hdrop, List.reverse_reverse, List.any_reverse]

theorem extensionOf_of_not_mem {name : String} (hname : '.' ∉ name.toList) : extensionOf name = "" := by
  have hdrop : name.toList.reverse.dropWhile (· != '.') = [] := by
    rw [List.dropWhile_eq_nil_iff]
    intro c hc
    rw [bne_iff_ne]
    rintro rfl
    exact hname (List.mem_reverse.mp hc)
  simp only [extensionOf, hdrop]

theorem exists_last_dot {cs : List Char} (h : '.' ∈ cs) :
    ∃ stem tail, cs = stem ++ '.' :: tail ∧ '.' ∉ tail := by
  obtain ⟨front, back, hsplit, hfront⟩ := List.eq_append_cons_of_mem (List.mem_reverse.mpr h)
  refine ⟨back.reverse, front.reverse, ?_, by simpa using hfront⟩
  rw [← List.reverse_reverse cs, hsplit]
  simp

/-- The program's extension of a name is the one it has. -/
theorem hasExtension_iff {name extension : String} :
    HasExtension name extension ↔ extensionOf name = extension := by
  constructor
  · rintro (⟨stem, tail, hname, htail, ⟨c, hc, hne⟩, rfl⟩ | ⟨hdots, rfl⟩)
    · have hany : stem.any (· != '.') = true := List.any_eq_true.mpr ⟨c, hc, bne_iff_ne.mpr hne⟩
      rw [extensionOf_of_dot hname htail, if_pos hany]
    · by_cases hdot : '.' ∈ name.toList
      · obtain ⟨stem, tail, hname, htail⟩ := exists_last_dot hdot
        have hstem := hdots stem tail hname htail
        rw [extensionOf_of_dot hname htail, if_neg]
        simpa using hstem
      · exact extensionOf_of_not_mem hdot
  · rintro rfl
    by_cases hdot : '.' ∈ name.toList
    · obtain ⟨stem, tail, hname, htail⟩ := exists_last_dot hdot
      rw [extensionOf_of_dot hname htail]
      split
      · next hany =>
          obtain ⟨c, hc, hne⟩ := List.any_eq_true.mp hany
          exact .inl ⟨stem, tail, hname, htail, ⟨c, hc, bne_iff_ne.mp hne⟩, rfl⟩
      · next hnone =>
          refine .inr ⟨fun stem' tail' hname' htail' => ?_, rfl⟩
          have hsame := extensionOf_of_dot hname' htail'
          rw [extensionOf_of_dot hname htail, if_neg hnone] at hsame
          split at hsame
          · cases String.ofList_eq_empty_iff.mp hsame.symm
          · next hnone' => simpa using hnone'
    · rw [extensionOf_of_not_mem hdot]
      refine .inr ⟨fun stem tail hname _ => ?_, rfl⟩
      exact absurd (by simp [hname]) hdot

/-- Names that lead from the root to a directory which the rules let a walk enter. -/
structure Enterable (selector : Selector) (names : List String) : Prop where
  isName : ∀ name ∈ names, FileTree.isName name = true
  area : ∀ area ∈ names.head?, area ∈ selector.areas
  excluded : ∀ name ∈ names, name ∉ selector.excluded

/-- A path that the rules let a walk select, whatever the files are. -/
structure Eligible (selector : Selector) (path : String) : Prop where
  inside : 2 ≤ (namesOf path).length
  area : ∃ area ∈ selector.areas, (namesOf path).head? = some area
  excluded : ∀ directory ∈ (namesOf path).dropLast, directory ∉ selector.excluded
  extension : ∃ name extension, (namesOf path).getLast? = some name ∧ HasExtension name extension ∧
    extension ∈ selector.extensions

variable {selector : Selector} {tree : FileTree} {names : List String} {listing : Listing}

theorem Enterable.root (selector : Selector) : Enterable selector [] :=
  ⟨nofun, nofun, nofun⟩

theorem Enterable.slash_not_mem (h : Enterable selector names) : ∀ name ∈ names, '/' ∉ name.toList :=
  fun name hname => FileTree.slash_not_mem (h.isName name hname)

theorem Enterable.of_append {more : List String} (h : Enterable selector (names ++ more)) :
    Enterable selector names where
  isName name hname := h.isName name (List.mem_append_left more hname)
  area area harea := h.area area (by rw [List.head?_append, harea]; rfl)
  excluded name hname := h.excluded name (List.mem_append_left more hname)

theorem enters_iff {directory : String} :
    selector.enters names directory = true ↔
      directory ∉ selector.excluded ∧ (names = [] → directory ∈ selector.areas) := by
  simp only [enters, Bool.and_eq_true, Bool.not_eq_true', List.contains_eq_mem, decide_eq_false_iff_not,
    Bool.or_eq_true, bne_iff_ne, decide_eq_true_eq, or_iff_not_imp_left, not_not]

/-- What may be entered from a directory that may be entered. -/
theorem enterable_concat {directory : String} :
    Enterable selector (names ++ [directory]) ↔
      Enterable selector names ∧ FileTree.isName directory = true ∧ selector.enters names directory = true := by
  rw [enters_iff]
  constructor
  · intro h
    refine ⟨h.of_append, h.isName directory (by simp), h.excluded directory (by simp), ?_⟩
    rintro rfl
    exact h.area directory rfl
  · rintro ⟨h, hname, hexcluded, harea⟩
    refine ⟨?_, ?_, ?_⟩
    · exact List.forall_mem_append.mpr ⟨h.isName, List.forall_mem_singleton.mpr hname⟩
    · intro area hhead
      cases names with
      | nil =>
          cases hhead
          exact harea rfl
      | cons first more => exact h.area area hhead
    · exact List.forall_mem_append.mpr ⟨h.excluded, List.forall_mem_singleton.mpr hexcluded⟩

theorem namesOf_selected (henterable : Enterable selector names) {file : String}
    (hfile : FileTree.isName file = true) : namesOf (pathText (names ++ [file])) = names ++ [file] := by
  refine namesOf_pathText (by simp) (List.forall_mem_append.mpr ⟨henterable.slash_not_mem, ?_⟩)
  exact List.forall_mem_singleton.mpr (FileTree.slash_not_mem hfile)

theorem eligible_pathText (h : Enterable selector names) (hne : names ≠ []) {file : String}
    (hname : FileTree.isName file = true) (hextension : extensionOf file ∈ selector.extensions) :
    Eligible selector (pathText (names ++ [file])) := by
  have hnames := namesOf_selected h hname
  refine ⟨?_, ?_, ?_, ?_⟩
  · have := List.length_pos_iff.mpr hne
    rw [hnames, List.length_append, List.length_singleton]
    omega
  · rw [hnames]
    cases names with
    | nil => exact absurd rfl hne
    | cons first more => exact ⟨first, h.area first rfl, rfl⟩
  · rw [hnames, List.dropLast_concat]
    exact h.excluded
  · rw [hnames, List.getLast?_concat]
    exact ⟨file, extensionOf file, rfl, hasExtension_iff.mpr rfl, hextension⟩

/-- Whether a walk goes past a name because it is a link. -/
def Passes (selector : Selector) (tree : FileTree) (names : List String) : Prop :=
  names ≠ [] ∧ tree.isLink (selector.root.extend names) (selector.spelling names) = true

/-- What the rules leave of a listing. -/
def selected (selector : Selector) (names : List String) (listing : Listing) : Listing :=
  ⟨selector.chosen names listing.files, sorted (listing.directories.filter (selector.enters names))⟩

theorem visit_of_passes (h : selector.Passes tree names) : selector.visit tree names = .ok ⟨[], []⟩ :=
  if_pos h

theorem visit_of_not_passes (h : ¬ selector.Passes tree names) :
    selector.visit tree names =
      (tree.list (selector.root.extend names) (selector.spelling names)).map (selector.selected names) := by
  have hvisit : selector.visit tree names = _ := if_neg h
  rw [hvisit]
  cases tree.list (selector.root.extend names) (selector.spelling names) <;> rfl

theorem visit_of_directory (hpasses : ¬ selector.Passes tree names) (hnull : (selector.root.extend names).hasNull = false)
    (hdenied : tree.isDenied (selector.root.extend names) = false) {entries : List (String × Node)}
    (hnode : tree.node? true (selector.root.extend names) (selector.spelling names) = .ok (.directory entries)) :
    selector.visit tree names =
      .ok (selector.selected names (tree.listing (selector.root.extend names) (selector.spelling names) entries)) := by
  rw [visit_of_not_passes hpasses, FileTree.list, hnull, hdenied, hnode]
  rfl

/-- A visit gives nothing below a link, and otherwise what the rules leave of a listing. -/
theorem visit_cases (h : selector.visit tree names = .ok listing) :
    listing = ⟨[], []⟩ ∨ ∃ all, tree.list (selector.root.extend names) (selector.spelling names) = .ok all ∧
      listing = ⟨selector.chosen names all.files, sorted (all.directories.filter (selector.enters names))⟩ := by
  by_cases hpasses : selector.Passes tree names
  · rw [visit_of_passes hpasses] at h
    cases h
    exact .inl rfl
  · rw [visit_of_not_passes hpasses] at h
    cases hlist : tree.list (selector.root.extend names) (selector.spelling names) with
    | error fault =>
        rw [hlist] at h
        cases h
    | ok all =>
        rw [hlist] at h
        cases h
        exact .inr ⟨all, rfl, rfl⟩

theorem visit_error {fault : Fault} (h : selector.visit tree names = .error fault) :
    tree.list (selector.root.extend names) (selector.spelling names) = .error fault := by
  by_cases hpasses : selector.Passes tree names
  · rw [visit_of_passes hpasses] at h
    cases h
  · rw [visit_of_not_passes hpasses] at h
    cases hlist : tree.list (selector.root.extend names) (selector.spelling names) with
    | error other =>
        rw [hlist] at h
        cases h
        rfl
    | ok all =>
        rw [hlist] at h
        cases h

/-- The rules leave the same of listings that hold the same names, as far as they look at them. -/
theorem selected_congr {all other : Listing} (hall : all.files.Nodup ∧ all.directories.Nodup)
    (hother : other.files.Nodup ∧ other.directories.Nodup)
    (hfiles : names ≠ [] → ∀ name, name ∈ other.files ↔ name ∈ all.files)
    (hdirectories : ∀ name, selector.enters names name = true →
      (name ∈ other.directories ↔ name ∈ all.directories)) :
    selector.selected names other = selector.selected names all := by
  have hchosen : selector.chosen names other.files = selector.chosen names all.files := by
    by_cases hne : names = []
    · rw [chosen, chosen, if_pos hne, if_pos hne]
    · rw [chosen, chosen, if_neg hne, if_neg hne, sorted_congr hall.1 hother.1 (hfiles hne)]
  have hentered : sorted (other.directories.filter (selector.enters names)) =
      sorted (all.directories.filter (selector.enters names)) := by
    apply sorted_congr (hall.2.filter _) (hother.2.filter _)
    intro name
    rw [List.mem_filter, List.mem_filter]
    exact and_congr_left fun henters => hdirectories name henters
  rw [selected, selected, hchosen, hentered]

theorem mem_chosen {files : List String} {path : String} :
    path ∈ selector.chosen names files ↔
      names ≠ [] ∧ ∃ file ∈ files, extensionOf file ∈ selector.extensions ∧
        path = pathText (names ++ [file]) := by
  by_cases hne : names = []
  · simp [chosen, hne]
  · simp [chosen, hne, (sorted_perm files).mem_iff, and_assoc, eq_comm]

theorem visit_files (hnamed : tree.WellNamed) (h : selector.visit tree names = .ok listing) {path : String}
    (hpath : path ∈ listing.files) :
    names ≠ [] ∧ ∃ file, FileTree.isName file = true ∧ extensionOf file ∈ selector.extensions ∧
      path = pathText (names ++ [file]) := by
  rcases visit_cases h with rfl | ⟨all, hlist, rfl⟩
  · cases hpath
  · obtain ⟨hne, file, hfile, hextension, hpath⟩ := mem_chosen.mp hpath
    exact ⟨hne, file, FileTree.list_names hnamed hlist (.inl hfile), hextension, hpath⟩

theorem visit_directories (hnamed : tree.WellNamed) (h : selector.visit tree names = .ok listing)
    {directory : String} (hdirectory : directory ∈ listing.directories) :
    FileTree.isName directory = true ∧ selector.enters names directory = true := by
  rcases visit_cases h with rfl | ⟨all, hlist, rfl⟩
  · cases hdirectory
  · obtain ⟨hmem, henters⟩ := List.mem_filter.mp ((sorted_perm _).mem_iff.mp hdirectory)
    exact ⟨FileTree.list_names hnamed hlist (.inr hmem), henters⟩

/-- From a directory that may be entered, a visit goes on to such directories. -/
theorem Enterable.visit (henterable : Enterable selector names) (hnamed : tree.WellNamed)
    (h : selector.visit tree names = .ok listing) {directory : String}
    (hdirectory : directory ∈ listing.directories) : Enterable selector (names ++ [directory]) :=
  enterable_concat.mpr ⟨henterable, visit_directories hnamed h hdirectory⟩

theorem visit_eligible (henterable : Enterable selector names) (hnamed : tree.WellNamed)
    (h : selector.visit tree names = .ok listing) {path : String} (hpath : path ∈ listing.files) :
    Eligible selector path := by
  obtain ⟨hne, file, hname, hextension, rfl⟩ := visit_files hnamed h hpath
  exact eligible_pathText henterable hne hname hextension

/-- What a walk is to read after a visit. -/
theorem pending_visited {P : List String → Prop} {rest : List (List String)}
    (hdirectories : ∀ directory ∈ listing.directories, P (names ++ [directory]))
    (hpending : ∀ next ∈ names :: rest, P next) :
    ∀ next ∈ listing.directories.map (names ++ [·]) ++ rest, P next :=
  List.forall_mem_append.mpr ⟨List.forall_mem_map.mpr hdirectories, (List.forall_mem_cons.mp hpending).2⟩

/-- A walk meets only directories of a kind that visits hand on, if it starts with such directories. -/
theorem trace_of_closed {P : List String → Prop}
    (hclosed : ∀ names listing, P names → selector.visit tree names = .ok listing →
      ∀ directory ∈ listing.directories, P (names ++ [directory]))
    (walk : Walk) (hwalk : ∀ names ∈ walk.pending, P names) :
    (∀ fault, (selector.trace tree walk).2 = some fault →
      ∃ names, P names ∧ selector.visit tree names = .error fault) ∧
    ∀ path ∈ (selector.trace tree walk).1, path ∈ walk.listed ∨
      ∃ names listing, P names ∧ selector.visit tree names = .ok listing ∧ path ∈ listing.files := by
  fun_induction trace selector tree walk with
  | case1 listed => exact ⟨nofun, fun path hpath => .inl hpath⟩
  | case2 listed names rest fault hvisit =>
      refine ⟨?_, fun path hpath => .inl hpath⟩
      rintro _ ⟨⟩
      exact ⟨names, hwalk names List.mem_cons_self, hvisit⟩
  | case3 listed names rest listing hvisit later ih =>
      have hnames := hwalk names List.mem_cons_self
      obtain ⟨hfault, hfiles⟩ := ih (pending_visited (hclosed names listing hnames hvisit) hwalk)
      refine ⟨hfault, fun path hpath => ?_⟩
      rcases List.mem_append.mp hpath with hpath | hpath
      · exact .inl hpath
      · rcases hfiles path hpath with hpath | hpath
        · exact .inr ⟨names, listing, hnames, hvisit, hpath⟩
        · exact .inr hpath

/-- A walk over another tree is the same if the visits are that it makes. -/
theorem trace_congr {other : FileTree} {P : List String → Prop}
    (hclosed : ∀ names listing, P names → selector.visit tree names = .ok listing →
      ∀ directory ∈ listing.directories, P (names ++ [directory]))
    (hvisits : ∀ names, P names → selector.visit other names = selector.visit tree names) (walk : Walk)
    (hwalk : ∀ names ∈ walk.pending, P names) : selector.trace other walk = selector.trace tree walk := by
  fun_induction trace selector tree walk with
  | case1 listed => rw [trace]
  | case2 listed names rest fault hvisit =>
      rw [← hvisits names (hwalk names List.mem_cons_self)] at hvisit
      rw [trace_of_error hvisit]
  | case3 listed names rest listing hvisit later ih =>
      have hnames := hwalk names List.mem_cons_self
      have hother := hvisits names hnames
      rw [hvisit] at hother
      have hlater := ih (pending_visited (hclosed names listing hnames hvisit) hwalk)
      rw [trace_of_ok hother, hlater]

end Selector

end PreMerge
