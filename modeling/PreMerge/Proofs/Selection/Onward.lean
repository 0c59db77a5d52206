import Mathlib.Data.List.Forall2
import PreMerge.Proofs.Files.Differ
import PreMerge.Proofs.Selection.Directories
import PreMerge.Proofs.Selection.UnderWay

/-! What a selection goes on with. Two trees that agree on the directories that a walk has still to enter (`Agree`) give
the same visits, and agree on the directories to be entered then (`Agree.visit`); so from there on they give the same
files (`pulls_congr`). What files there are in a directory that none of those leads to or lies above does not matter
(`agree_of_differAt`). -/

namespace PreMerge

open FileTree (isEntryName DifferAt)
open Selector (Enterable)

namespace Selector

variable {selector : Selector} {tree first second : FileTree} {names place : List String} {listing : Listing}

/-- How listing a directory comes out in two trees: refused in both, for reasons that count as the same, or listed in
both. -/
inductive ListedAlike (same : Fault → Fault → Prop) : Except Fault Listing → Except Fault Listing → Prop
  | refused {fault other : Fault} (h : same fault other) : ListedAlike same (.error fault) (.error other)
  | listed (listing other : Listing) : ListedAlike same (.ok listing) (.ok other)

/-- Two trees agree on what is below a directory: on the outlines, on which links lead to directories, and on which
directories are refused. -/
structure AgreeBelow (selector : Selector) (first second : FileTree) (names : List String)
    (entries others : List (String × Node)) : Prop where
  outlines : ∀ place, (Node.directory others).outlineAt place = (Node.directory entries).outlineAt place
  links : ∀ place target, (Node.directory entries).outlineAt place = some (.link target) →
    second.isDirectory (selector.root.extend (names ++ place)) (selector.spelling (names ++ place)) =
      first.isDirectory (selector.root.extend (names ++ place)) (selector.spelling (names ++ place))
  denied : ∀ place, place ≠ [] → (Node.directory entries).outlineAt place = some .directory →
    second.isDenied (selector.root.extend (names ++ place)) = first.isDenied (selector.root.extend (names ++ place))

/-- Two trees agree on a directory that is to be entered: on whether it is a link, and if it is none, on whether it can
be listed and on what is below it. -/
structure Agree (selector : Selector) (same : Fault → Fault → Prop) (first second : FileTree) (names : List String) :
    Prop where
  link : selector.Passes second names ↔ selector.Passes first names
  listed : ¬ selector.Passes first names → ListedAlike same
    (first.list (selector.root.extend names) (selector.spelling names))
    (second.list (selector.root.extend names) (selector.spelling names))
  below : ¬ selector.Passes first names → ∀ {entries others},
    first.node? true (selector.root.extend names) (selector.spelling names) = .ok (.directory entries) →
    second.node? true (selector.root.extend names) (selector.spelling names) = .ok (.directory others) →
    selector.AgreeBelow first second names entries others

namespace AgreeBelow

variable {entries others inner more : List (String × Node)}

theorem find?_eq (h : selector.AgreeBelow first second names entries others) (name : String) :
    (Node.find? name others).map Node.outline = (Node.find? name entries).map Node.outline := by
  have hsame := h.outlines [name]
  rwa [Node.outlineAt, Node.outlineAt, Node.at?_single, Node.at?_single] at hsame

theorem enters_eq (h : selector.AgreeBelow first second names entries others) (henterable : Enterable selector names)
    (name : String) :
    second.entersDirectory (selector.root.extend names) (selector.spelling names) name (Node.find? name others) =
      first.entersDirectory (selector.root.extend names) (selector.spelling names) name
        (Node.find? name entries) := by
  apply FileTree.entersDirectory_congr (h.find?_eq name)
  intro target hlink
  rw [Path.extend_extend, ← spelling_concat henterable.isName]
  apply h.links [name] target
  rwa [Node.outlineAt, Node.at?_single]

/-- What is listed is the same, perhaps in another order. -/
theorem mem_listing_iff (h : selector.AgreeBelow first second names entries others)
    (henterable : Enterable selector names) (name : String) :
    (name ∈ (second.listing (selector.root.extend names) (selector.spelling names) others).files ↔
      name ∈ (first.listing (selector.root.extend names) (selector.spelling names) entries).files) ∧
    (name ∈ (second.listing (selector.root.extend names) (selector.spelling names) others).directories ↔
      name ∈ (first.listing (selector.root.extend names) (selector.spelling names) entries).directories) := by
  simp only [FileTree.mem_listing_files, FileTree.mem_listing_directories,
    FileTree.mem_names_congr (h.find?_eq name), h.enters_eq henterable, and_self]

theorem entry {name : String} (h : selector.AgreeBelow first second names entries others)
    (hinner : Node.find? name entries = some (.directory inner))
    (hmore : Node.find? name others = some (.directory more)) :
    selector.AgreeBelow first second (names ++ [name]) inner more := by
  have hdown : ∀ place, (Node.directory inner).outlineAt place = (Node.directory entries).outlineAt (name :: place) := by
    intro place
    rw [Node.outlineAt_cons, hinner, Option.bind_some]
  refine ⟨fun place => ?_, fun place target hlink => ?_, fun place _ hdirectory => ?_⟩
  · have hsame := h.outlines (name :: place)
    rwa [Node.outlineAt_cons, hmore, Option.bind_some, ← hdown] at hsame
  · rw [List.append_assoc]
    exact h.links (name :: place) target (hdown place ▸ hlink)
  · rw [List.append_assoc]
    exact h.denied (name :: place) (List.cons_ne_nil _ _) (hdown place ▸ hdirectory)

section Entry

variable {name : String}

theorem passes_iff (h : selector.AgreeBelow first second names entries others)
    (hentries : first.node? true (selector.root.extend names) (selector.spelling names) = .ok (.directory entries))
    (hothers : second.node? true (selector.root.extend names) (selector.spelling names) = .ok (.directory others))
    (hentry : isEntryName name = true) :
    selector.Passes second (names ++ [name]) ↔ selector.Passes first (names ++ [name]) := by
  refine and_congr_right fun _ => ?_
  rw [← Path.extend_extend, FileTree.isLink_iff, FileTree.isLink_iff,
    FileTree.node?_entry_congr false hentries hothers hentry (h.find?_eq name) (.inl rfl)]

/-- A link that leads to a directory is there at the end of its path, so a walk goes past it. -/
theorem passes_of_link
    (hentries : first.node? true (selector.root.extend names) (selector.spelling names) = .ok (.directory entries))
    (henterable : Enterable selector names) (hentry : isEntryName name = true) {target : String}
    (hlink : Node.find? name entries = some (.link target))
    (hleads : first.isDirectory ((selector.root.extend names).extend [name])
      (FileTree.spell (selector.spelling names) name) = true) :
    selector.Passes first (names ++ [name]) := by
  obtain ⟨there, deeper, hthere, hat⟩ := FileTree.exists_directory_of_isDirectory hleads
  rw [← spelling_concat henterable.isName] at hthere
  have hyes := (FileTree.find?_of_node?_extend hentry hentries
    (FileTree.node?_eq_ok.mpr ⟨there, hthere, hat⟩)).resolve_left (by simp [hlink])
  exact ⟨by simp, by rwa [← Path.extend_extend]⟩

/-- The trees agree on a directory that is one in both. -/
theorem agree_of_directory {same : Fault → Fault → Prop} (hsame : ∀ fault, same fault fault)
    (h : selector.AgreeBelow first second names entries others)
    (hentries : first.node? true (selector.root.extend names) (selector.spelling names) = .ok (.directory entries))
    (hothers : second.node? true (selector.root.extend names) (selector.spelling names) = .ok (.directory others))
    (hentry : isEntryName name = true) (hinner : Node.find? name entries = some (.directory inner)) :
    selector.Agree same first second (names ++ [name]) := by
  have hfind := h.find?_eq name
  rw [hinner, Option.map_some, Option.map_eq_some_iff] at hfind
  obtain ⟨node, hmore, houtline⟩ := hfind
  obtain ⟨more, rfl⟩ := Node.outline_eq_directory.mp houtline
  have hdenied := h.denied [name] (List.cons_ne_nil _ _) (by
    rw [Node.outlineAt_cons, hinner]
    rfl)
  have hnode := FileTree.node?_entry_congr true hentries hothers hentry (h.find?_eq name)
    (.inr (by simp [hinner, Node.outline])) (selector.spelling (names ++ [name]))
  refine ⟨h.passes_iff hentries hothers hentry, fun _ => ?_, fun _ {found foundThere} hfound hthere => ?_⟩
  · rw [Path.extend_extend] at hnode
    rcases FileTree.list_congr hdenied hnode with ⟨fault, hone, htwo⟩ | ⟨_, _, -, -, hone, htwo⟩
    · rw [hone, htwo]
      exact .refused (hsame fault)
    · rw [hone, htwo]
      exact .listed _ _
  · rw [← Path.extend_extend, FileTree.node?_entry hentries hentry (.inr (by simp [hinner])), hinner] at hfound
    rw [← Path.extend_extend, FileTree.node?_entry hothers hentry (.inr (by simp [hmore])), hmore] at hthere
    split at hfound
    · next hfits =>
        rw [if_pos hfits] at hthere
        cases hfound
        cases hthere
        exact h.entry hinner hmore
    · cases hfound

end Entry

end AgreeBelow

namespace Agree

variable {same : Fault → Fault → Prop}

/-- Both trees have a directory there, unless both refuse to list it. -/
theorem list_cases (h : selector.Agree same first second names) (hpasses : ¬ selector.Passes first names) :
    (∃ fault other, first.list (selector.root.extend names) (selector.spelling names) = .error fault ∧
      second.list (selector.root.extend names) (selector.spelling names) = .error other ∧ same fault other) ∨
    ∃ entries others, selector.AgreeBelow first second names entries others ∧
      first.node? true (selector.root.extend names) (selector.spelling names) = .ok (.directory entries) ∧
      second.node? true (selector.root.extend names) (selector.spelling names) = .ok (.directory others) ∧
      first.list (selector.root.extend names) (selector.spelling names) =
        .ok (first.listing (selector.root.extend names) (selector.spelling names) entries) ∧
      second.list (selector.root.extend names) (selector.spelling names) =
        .ok (second.listing (selector.root.extend names) (selector.spelling names) others) := by
  have hlisted := h.listed hpasses
  cases hfirst : first.list (selector.root.extend names) (selector.spelling names) with
  | error fault =>
      rw [hfirst] at hlisted
      cases hsecond : second.list (selector.root.extend names) (selector.spelling names) with
      | error other =>
          rw [hsecond] at hlisted
          cases hlisted with
          | refused hsame => exact .inl ⟨fault, other, rfl, rfl, hsame⟩
      | ok other =>
          rw [hsecond] at hlisted
          cases hlisted
  | ok listing =>
      rw [hfirst] at hlisted
      cases hsecond : second.list (selector.root.extend names) (selector.spelling names) with
      | error other =>
          rw [hsecond] at hlisted
          cases hlisted
      | ok other =>
          obtain ⟨entries, hentries, rfl⟩ := FileTree.list_eq_ok hfirst
          obtain ⟨others, hothers, rfl⟩ := FileTree.list_eq_ok hsecond
          exact .inr ⟨entries, others, h.below hpasses hentries hothers, hentries, hothers, rfl, rfl⟩

/-- A visit gives the same in both trees. -/
theorem visit_cases (h : selector.Agree same first second names) (henterable : Enterable selector names) :
    (∃ fault other, selector.visit first names = .error fault ∧ selector.visit second names = .error other ∧
      same fault other) ∨
    ∃ listing, selector.visit first names = .ok listing ∧ selector.visit second names = .ok listing := by
  by_cases hpasses : selector.Passes first names
  · exact .inr ⟨⟨[], []⟩, visit_of_passes hpasses, visit_of_passes (h.link.mpr hpasses)⟩
  · rw [visit_of_not_passes hpasses, visit_of_not_passes (mt h.link.mp hpasses)]
    rcases h.list_cases hpasses with
      ⟨fault, other, hfirst, hsecond, hsame⟩ | ⟨entries, others, hbelow, -, -, hfirst, hsecond⟩
    · rw [hfirst, hsecond]
      exact .inl ⟨fault, other, rfl, rfl, hsame⟩
    · rw [hfirst, hsecond]
      refine .inr ⟨_, rfl, congrArg Except.ok ?_⟩
      apply selected_congr (FileTree.listing_nodup ..) (FileTree.listing_nodup ..)
      · exact fun _ name => (hbelow.mem_listing_iff henterable name).1
      · exact fun name _ => (hbelow.mem_listing_iff henterable name).2

/-- The trees agree on the directories that a visit adds to those to be entered. -/
theorem visit (h : selector.Agree same first second names) (hsame : ∀ fault, same fault fault)
    (henterable : Enterable selector names) (hvisit : selector.visit first names = .ok listing) {directory : String}
    (hdirectory : directory ∈ listing.directories) : selector.Agree same first second (names ++ [directory]) := by
  by_cases hpasses : selector.Passes first names
  · rw [visit_of_passes hpasses] at hvisit
    cases hvisit
    cases hdirectory
  rw [visit_of_not_passes hpasses] at hvisit
  rcases h.list_cases hpasses with ⟨_, _, hfirst, -⟩ | ⟨entries, others, hbelow, hentries, hothers, hfirst, -⟩
  · rw [hfirst] at hvisit
    cases hvisit
  rw [hfirst] at hvisit
  cases hvisit
  have hmem := (List.mem_filter.mp ((sorted_perm _).mem_iff.mp hdirectory)).1
  obtain ⟨-, hentry, hleads⟩ := FileTree.mem_listing_directories.mp hmem
  cases hinner : Node.find? directory entries with
  | none =>
      rw [hinner] at hleads
      cases hleads
  | some node =>
      cases node with
      | file content runnable =>
          rw [hinner] at hleads
          cases hleads
      | link target =>
          rw [hinner] at hleads
          have hpast := AgreeBelow.passes_of_link hentries henterable hentry hinner hleads
          exact ⟨hbelow.passes_iff hentries hothers hentry, fun hnot => absurd hpast hnot, fun hnot => absurd hpast hnot⟩
      | directory inner => exact hbelow.agree_of_directory hsame hentries hothers hentry hinner

end Agree

/-- Two trees agree on all that a walk has still to enter. -/
def AgreeOn (selector : Selector) (same : Fault → Fault → Prop) (first second : FileTree) (walk : Walk) : Prop :=
  ∀ names ∈ walk.pending, Enterable selector names ∧ selector.Agree same first second names

section Congruence

variable {same : Fault → Fault → Prop}

/-- A pull gives the same in both trees, and they agree on what the walk has still to enter then. -/
theorem pull_congr (hsame : ∀ fault, same fault fault) (hnamed : first.WellNamed) {walk : Walk}
    (h : selector.AgreeOn same first second walk) :
    (∃ file later, selector.pull first walk = .found file later ∧ selector.pull second walk = .found file later ∧
      selector.AgreeOn same first second later) ∨
    (∃ fault other, selector.pull first walk = .failed fault ∧ selector.pull second walk = .failed other ∧
      same fault other) ∨
    selector.pull first walk = .ended ∧ selector.pull second walk = .ended := by
  fun_induction pull selector first walk with
  | case1 file listed pending => exact .inl ⟨file, ⟨listed, pending⟩, rfl, pull_listed .., h⟩
  | case2 => exact .inr (.inr ⟨rfl, pull_nothing ..⟩)
  | case3 names rest fault hvisit =>
      obtain ⟨henterable, hagree⟩ := h names List.mem_cons_self
      rcases hagree.visit_cases henterable with ⟨_, other, hfirst, hsecond, hfault⟩ | ⟨listing, hfirst, -⟩
      · rw [hvisit] at hfirst
        cases hfirst
        exact .inr (.inl ⟨fault, other, rfl, pull_of_error hsecond rest, hfault⟩)
      · rw [hvisit] at hfirst
        cases hfirst
  | case4 names rest listing hvisit ih =>
      obtain ⟨henterable, hagree⟩ := h names List.mem_cons_self
      rcases hagree.visit_cases henterable with ⟨_, _, hfirst, -⟩ | ⟨_, hfirst, hsecond⟩
      · rw [hvisit] at hfirst
        cases hfirst
      · rw [hvisit] at hfirst
        cases hfirst
        rw [pull_of_ok hsecond]
        refine ih (pending_visited (fun directory hdirectory => ?_) h)
        exact ⟨henterable.visit hnamed hvisit hdirectory, hagree.visit hsame henterable hvisit hdirectory⟩

end Congruence

end Selector

/-- Two batches that show no more files for reasons that count as the same. -/
inductive Stop.Alike (same : Fault → Fault → Prop) : Option Stop → Option Stop → Prop
  | more : Alike same none none
  | ended : Alike same (some .ended) (some .ended)
  | failed {fault other : Fault} (h : same fault other) : Alike same (some (.failed fault)) (some (.failed other))

structure Batch.Alike (same : Fault → Fault → Prop) (batch other : Batch) : Prop where
  files : other.files = batch.files
  stop : Stop.Alike same batch.stop other.stop
  selection : other.selection = batch.selection

theorem Batch.Alike.eq {batch other : Batch} (h : Batch.Alike Eq batch other) : other = batch := by
  obtain ⟨files, stop, selection⟩ := batch
  obtain ⟨files', stop', selection'⟩ := other
  obtain ⟨rfl, hstop, rfl⟩ := h
  cases hstop with
  | more => rfl
  | ended => rfl
  | failed h => rw [h]

namespace Selector

variable {selector : Selector} {first second : FileTree} {same : Fault → Fault → Prop} {names place : List String}

theorem take_congr (hsame : ∀ fault, same fault fault) (hnamed : first.WellNamed) (count : Nat) {selection : Selection}
    (h : ∀ walk, selection.walk = some walk → selector.AgreeOn same first second walk) :
    Batch.Alike same (selector.take first count selection) (selector.take second count selection) ∧
    ∀ walk, (selector.take first count selection).selection.walk = some walk →
      selector.AgreeOn same first second walk := by
  induction count generalizing selection with
  | zero => exact ⟨⟨rfl, .more, rfl⟩, h⟩
  | succ count ih =>
      obtain ⟨left, walk⟩ := selection
      cases left with
      | zero => exact ⟨⟨rfl, .ended, rfl⟩, h⟩
      | succ left =>
          cases walk with
          | none => exact ⟨⟨rfl, .ended, rfl⟩, h⟩
          | some walk =>
              rcases pull_congr hsame hnamed (h walk rfl) with
                ⟨file, later, hfirst, hsecond, hlater⟩ | ⟨fault, other, hfirst, hsecond, hfault⟩ | ⟨hfirst, hsecond⟩
              · have hrest : ∀ walk, (Selection.mk left (some later)).walk = some walk →
                    selector.AgreeOn same first second walk := by
                  rintro _ ⟨⟩
                  exact hlater
                obtain ⟨⟨hfiles, hstop, hselection⟩, hagree⟩ := ih hrest
                simp only [take, hfirst, hsecond]
                exact ⟨⟨congrArg (file :: ·) hfiles, hstop, hselection⟩, hagree⟩
              · simp only [take, hfirst, hsecond]
                exact ⟨⟨rfl, .failed hfault, rfl⟩, nofun⟩
              · simp only [take, hfirst, hsecond]
                exact ⟨⟨rfl, .ended, rfl⟩, nofun⟩

/-- Over trees that agree on all that is still to be entered, all further pulls give the same. -/
theorem pulls_congr (hsame : ∀ fault, same fault fault) (hnamed : first.WellNamed) (chunks : List Nat)
    {selection : Selection} (h : ∀ walk, selection.walk = some walk → selector.AgreeOn same first second walk) :
    List.Forall₂ (Batch.Alike same) (selector.pulls (chunks.map (first, ·)) selection)
      (selector.pulls (chunks.map (second, ·)) selection) := by
  induction chunks generalizing selection with
  | nil => exact .nil
  | cons count chunks ih =>
      obtain ⟨halike, hagree⟩ := take_congr hsame hnamed count h
      rw [List.map_cons, List.map_cons, pulls, pulls, halike.selection]
      exact .cons halike (ih hagree)

/-- Files in a directory that is not to be entered, and is in none of those, do not matter, except for the reason why
a directory cannot be listed. -/
theorem agree_of_differAt (h : DifferAt place first second)
    (hapart : ∀ there, first.locate true (selector.root.extend names) (selector.spelling names) = .ok there →
      ¬ there <+: place) :
    selector.Agree (fun _ _ => True) first second names := by
  refine ⟨?_, fun _ => ?_, fun _ {entries others} hfirst hsecond => ?_⟩
  · unfold Passes
    rw [h.isLink_eq]
  · have hiff := h.list_iff (selector.root.extend names) (selector.spelling names)
    cases hfirst : first.list (selector.root.extend names) (selector.spelling names) with
    | error fault =>
        cases hsecond : second.list (selector.root.extend names) (selector.spelling names) with
        | error other => exact .refused trivial
        | ok other =>
            rw [hfirst, hsecond] at hiff
            obtain ⟨_, hok⟩ := hiff.mp ⟨other, rfl⟩
            cases hok
    | ok listing =>
        obtain ⟨other, hsecond⟩ := hiff.mpr ⟨listing, hfirst⟩
        rw [hsecond]
        exact .listed _ _
  · obtain ⟨there, hlocate, hat, hat'⟩ := h.node?_directory hfirst hsecond
    refine ⟨h.outlineAt_below hat hat' (hapart there hlocate), fun _ _ _ => h.isDirectory_eq, fun _ _ _ => ?_⟩
    rw [FileTree.isDenied, FileTree.isDenied, h.denied]

/-- What a selection goes on with depends on what it has not yet read. However files were pulled and the tree was
changed, trees that agree on the directories that are still to be entered give the same from there on; if they do not
agree on why a directory cannot be listed, they give the same files, and both fail there. If files come or go in some
directory, nothing else changes unless one of those to be entered leads there or to a directory above; in a directory
that has been read they may come and go, if those to be entered are where their names say. -/
theorem pulls_depend_on_unlisted (selector : Selector) {start : Selection} (hstart : selector.select = .ok start)
    {history : List (FileTree × Nat)} (hnamed : ∀ pull ∈ history, pull.1.WellNamed) {walk : Walk}
    (hwalk : (selector.after history start).walk = some walk) :
    ∃ read, walk.UnderWay selector read ∧ ∀ {first second : FileTree}, first.WellNamed → ∀ chunks : List Nat,
      let further := fun tree => selector.pulls (chunks.map (tree, ·)) (selector.after history start)
      let there := fun names => first.locate true (selector.root.extend names) (selector.spelling names)
      ((∀ names ∈ walk.pending, selector.Agree Eq first second names) → further second = further first) ∧
      ((∀ names ∈ walk.pending, selector.Agree (fun _ _ => True) first second names) →
        List.Forall₂ (Batch.Alike fun _ _ => True) (further first) (further second)) ∧
      (∀ place, DifferAt place first second →
        (∀ names ∈ walk.pending, ∀ inner, there names = .ok inner → ¬ inner <+: place) →
        List.Forall₂ (Batch.Alike fun _ _ => True) (further first) (further second)) ∧
      ∀ base, ∀ done ∈ read, DifferAt (base ++ done) first second →
        (∀ names ∈ walk.pending, ∀ inner, there names = .ok inner → inner = base ++ names) →
        List.Forall₂ (Batch.Alike fun _ _ => True) (further first) (further second) := by
  obtain ⟨read, hread⟩ := underWay_after hnamed (underWay_select hstart) walk hwalk
  refine ⟨read, hread, fun {first second} hfirst chunks => ?_⟩
  intro further there
  have hcongr : ∀ same : Fault → Fault → Prop, (∀ fault, same fault fault) →
      (∀ names ∈ walk.pending, selector.Agree same first second names) →
      List.Forall₂ (Batch.Alike same) (further first) (further second) := by
    intro same hsame hagree
    refine pulls_congr hsame hfirst chunks fun other hother => ?_
    rw [hwalk] at hother
    cases hother
    exact fun names hnames => ⟨hread.enterable names hnames, hagree names hnames⟩
  have hfiles : ∀ place, DifferAt place first second →
      (∀ names ∈ walk.pending, ∀ inner, there names = .ok inner → ¬ inner <+: place) →
      List.Forall₂ (Batch.Alike fun _ _ => True) (further first) (further second) := by
    intro place hdiffer hapart
    exact hcongr _ (fun _ => trivial) fun names hnames => agree_of_differAt hdiffer (hapart names hnames)
  refine ⟨fun hagree => ?_, hcongr _ fun _ => trivial, hfiles, fun base done hdone hdiffer hnames => ?_⟩
  · have hsame := (hcongr Eq (fun _ => rfl) hagree).imp fun {batch other} h => h.eq.symm
    rw [List.forall₂_eq_eq_eq] at hsame
    exact hsame.symm
  · refine hfiles _ hdiffer fun names hpending inner hinner => ?_
    rw [hnames names hpending inner hinner, List.prefix_append_right_inj]
    exact hread.apart.2 done hdone names hpending

/-- Of two files that a directory may hold, one is erased after it has been pulled, and the other is put there. -/
theorem pulls_depend_on_unlisted_of_exchanged_files :
    let apps : Node := .directory [("a.ts", .ofBytes []), ("web", .directory [("b.ts", .ofBytes [])])]
    let first : FileTree := ⟨.directory [("apps", apps)], [], Path.isAmong []⟩
    let second : FileTree :=
      { first with root := (first.root.erase ["apps", "a.ts"]).put ["apps", "c.ts"] (.ofBytes []) }
    let selector : Selector := { root := .ofString "." }
    let start : Selection := ⟨500, some .fresh⟩
    let next : Selection := ⟨499, some ⟨[], [["apps", "web"]]⟩⟩
    selector.select = .ok start ∧ first.WellNamed ∧ selector.after [(first, 1)] start = next ∧
    DifferAt ["apps"] first second ∧
    first.locate true (selector.root.extend ["apps", "web"]) (selector.spelling ["apps", "web"]) = .ok ["apps", "web"] ∧
    List.Forall₂ (Batch.Alike fun _ _ => True) (selector.pulls [(first, 1), (first, 2)] next)
      (selector.pulls [(second, 1), (second, 2)] next) := by
  intro apps first second selector start next
  have hstart : selector.select = .ok start := by decide +kernel
  have hnamed : first.WellNamed := by decide +kernel
  have hroot : selector.visit first [] = .ok ⟨[], ["apps"]⟩ := by decide +kernel
  have happs : selector.visit first ["apps"] = .ok ⟨["apps/a.ts"], ["web"]⟩ := by decide +kernel
  have hpull : selector.pull first .fresh = .found "apps/a.ts" ⟨[], [["apps", "web"]]⟩ :=
    (pull_of_ok hroot []).trans ((pull_of_ok happs []).trans (pull_listed ..))
  have hafter : selector.after [(first, 1)] start = next := by
    simp only [after, start, take, hpull]
    rfl
  have hdiffer : DifferAt ["apps"] first second := by
    have herase : DifferAt ["apps"] first { first with root := first.root.erase ["apps", "a.ts"] } :=
      FileTree.differAt_erase rfl "a.ts" (.inr rfl)
    exact herase.trans (FileTree.differAt_put rfl "c.ts" (.inl rfl) _ _)
  have hlocate : first.locate true (selector.root.extend ["apps", "web"]) (selector.spelling ["apps", "web"]) =
      .ok ["apps", "web"] := by decide +kernel
  have hall : ∀ pull ∈ [(first, 1)], pull.1.WellNamed := List.forall_mem_singleton.mpr hnamed
  obtain ⟨read, -, hmore⟩ := pulls_depend_on_unlisted selector hstart hall (congrArg Selection.walk hafter)
  refine ⟨hstart, hnamed, hafter, hdiffer, hlocate, ?_⟩
  rw [← hafter]
  refine (hmore hnamed [1, 2]).2.2.1 ["apps"] hdiffer ?_
  intro names hnames inner hinner
  obtain rfl := List.mem_singleton.mp hnames
  cases hlocate.symm.trans hinner
  decide

/-- Behind a link that leads up, the names of an area lead to the area again, and to the link in it. -/
theorem node?_behind_link {tree : FileTree} {entries : List (String × Node)}
    (htree : tree.root = .directory [("apps", .directory entries)]) (hhere : tree.here = [])
    (hlink : Node.find? "b" entries = some (.link "..")) {shown : String}
    (hshown : shown.utf8ByteSize < FileTree.pathBound) :
    (∀ last, tree.node? last ⟨.here, ["apps", "b", "apps"]⟩ shown = .ok (.directory entries)) ∧
    tree.node? false ⟨.here, ["apps", "b", "apps", "b"]⟩ shown = .ok (.link "..") ∧
    tree.node? true ⟨.here, ["apps", "b", "apps", "b"]⟩ shown = .ok tree.root := by
  have hsteps : FileTree.stepsOf ".." = [".."] := by decide
  have hstart : FileTree.startOf ".." ["apps"] = ["apps"] := by decide
  have hfrom : tree.start .here = [] := hhere
  refine ⟨fun last => FileTree.node?_eq_ok.mpr ⟨["apps"], FileTree.locate_eq_ok.mpr ⟨hshown, ?_⟩, ?_⟩,
    FileTree.node?_eq_ok.mpr ⟨["apps", "b"], FileTree.locate_eq_ok.mpr ⟨hshown, ?_⟩, ?_⟩,
    FileTree.node?_eq_ok.mpr ⟨[], FileTree.locate_eq_ok.mpr ⟨hshown, ?_⟩, rfl⟩⟩
  all_goals
    simp +decide [FileTree.follow, hfrom, htree, Node.at?, Node.find?, FileTree.linkBudget, hlink, hsteps, hstart]

/-- A directory that has been read is put in the way of one that is to be entered, by a link. A file that is then added
to the directory is pulled. -/
theorem pulls_depend_on_listed_behind_link :
    let file : Node := .ofBytes []
    let inner : Node := .directory [("z.ts", file), ("apps", .empty)]
    let before : FileTree := ⟨.directory [("apps", .directory [("b", inner)])], [], Path.isAmong []⟩
    let first : FileTree := ⟨.directory [("apps", .directory [("b", .link "..")])], [], Path.isAmong []⟩
    let second : FileTree := { first with root := first.root.put ["apps", "new.ts"] file }
    let selector : Selector := { root := .ofString "." }
    let walk : Walk := ⟨[], [["apps", "b", "apps"]]⟩
    selector.select = .ok ⟨500, some .fresh⟩ ∧ before.WellNamed ∧ first.WellNamed ∧ second.WellNamed ∧
    selector.after [(before, 1)] ⟨500, some .fresh⟩ = ⟨499, some walk⟩ ∧
    walk.UnderWay selector [["apps", "b"], ["apps"], []] ∧ DifferAt ["apps"] first second ∧
    selector.pulled [(first, 2)] ⟨499, some walk⟩ = [] ∧
    selector.pulled [(second, 2)] ⟨499, some walk⟩ = ["apps/b/apps/new.ts"] := by
  intro file inner before first second selector walk
  have hnamed : before.WellNamed := by decide +kernel
  have hroot : selector.visit before [] = .ok ⟨[], ["apps"]⟩ := by decide +kernel
  have happs : selector.visit before ["apps"] = .ok ⟨[], ["b"]⟩ := by decide +kernel
  have hb : selector.visit before ["apps", "b"] = .ok ⟨["apps/b/z.ts"], ["apps"]⟩ := by decide +kernel
  have hpull : selector.pull before .fresh = .found "apps/b/z.ts" walk :=
    (pull_of_ok hroot []).trans ((pull_of_ok happs []).trans ((pull_of_ok hb []).trans (pull_listed ..)))
  have hread : walk.UnderWay selector [["apps", "b"], ["apps"], []] :=
    .give (.visit (.visit (.visit .fresh hnamed hroot) hnamed happs) hnamed hb)
  have hfits : (selector.spelling ["apps", "b", "apps"]).utf8ByteSize < FileTree.pathBound ∧
      (selector.spelling ["apps", "b", "apps", "b"]).utf8ByteSize < FileTree.pathBound := by decide +kernel
  have hnull : (selector.root.extend ["apps", "b", "apps"]).hasNull = false := by decide +kernel
  have hspelt : FileTree.spell (selector.spelling ["apps", "b", "apps"]) "b" =
      selector.spelling ["apps", "b", "apps", "b"] := by decide +kernel
  -- The link leads up, so behind it the names lead to the area itself.
  have hbehind : ∀ {tree : FileTree} {entries : List (String × Node)},
      tree.root = .directory [("apps", .directory entries)] → tree.here = [] →
      tree.denied = Path.isAmong [] → Node.find? "b" entries = some (.link "..") →
      selector.visit tree ["apps", "b", "apps"] = .ok (selector.selected ["apps", "b", "apps"]
        (tree.listing (selector.root.extend ["apps", "b", "apps"]) (selector.spelling ["apps", "b", "apps"]) entries)) ∧
      tree.isDirectory (selector.root.extend ["apps", "b", "apps", "b"])
        (selector.spelling ["apps", "b", "apps", "b"]) = true ∧
      selector.visit tree ["apps", "b", "apps", "b"] = .ok ⟨[], []⟩ := by
    intro tree entries htree hhere hdenied hlink
    obtain ⟨harea, -, -⟩ := node?_behind_link htree hhere hlink hfits.1
    obtain ⟨-, hlast, hround⟩ := node?_behind_link htree hhere hlink hfits.2
    have hpasses : ¬ selector.Passes tree ["apps", "b", "apps"] := by
      rintro ⟨-, hpassed⟩
      rw [FileTree.isLink, show tree.node? false (selector.root.extend _) _ = _ from harea false] at hpassed
      cases hpassed
    have hopen : tree.isDenied (selector.root.extend ["apps", "b", "apps"]) = false := by
      rw [FileTree.isDenied, hdenied]
      rfl
    refine ⟨visit_of_directory hpasses hnull hopen (harea true), ?_, visit_of_passes ⟨List.cons_ne_nil _ _, ?_⟩⟩
    · rw [FileTree.isDirectory, show tree.node? true (selector.root.extend _) _ = _ from hround, htree]
    · rw [FileTree.isLink, show tree.node? false (selector.root.extend _) _ = _ from hlast]
  obtain ⟨hfirst, hleads, hpast⟩ := hbehind (rfl : first.root = _) rfl rfl rfl
  have hnew : second.root = .directory [("apps", .directory [("b", .link ".."), ("new.ts", file)])] := rfl
  obtain ⟨hsecond, hleads', hpast'⟩ := hbehind hnew rfl rfl rfl
  have hlisting : first.listing (selector.root.extend ["apps", "b", "apps"])
      (selector.spelling ["apps", "b", "apps"]) [("b", .link "..")] = ⟨[], ["b"]⟩ := by
    simp [FileTree.listing, Node.names, isEntryName, Node.find?, FileTree.entersDirectory, Path.extend_extend, hspelt,
      hleads]
  have hlisting' : second.listing (selector.root.extend ["apps", "b", "apps"])
      (selector.spelling ["apps", "b", "apps"]) [("b", .link ".."), ("new.ts", file)] = ⟨["new.ts"], ["b"]⟩ := by
    simp [FileTree.listing, Node.names, isEntryName, Node.find?, FileTree.entersDirectory, Path.extend_extend, hspelt,
      hleads', file, Node.ofBytes]
  have hnothing : selector.selected ["apps", "b", "apps"] ⟨[], ["b"]⟩ = ⟨[], ["b"]⟩ := by decide +kernel
  have hadded : selector.selected ["apps", "b", "apps"] ⟨["new.ts"], ["b"]⟩ = ⟨["apps/b/apps/new.ts"], ["b"]⟩ := by
    decide +kernel
  rw [hlisting, hnothing] at hfirst
  rw [hlisting', hadded] at hsecond
  have hdiffer : DifferAt ["apps"] first second := FileTree.differAt_put rfl "new.ts" (.inl rfl) _ _
  refine ⟨by decide +kernel, hnamed, by decide +kernel, by decide +kernel, ?_, hread, hdiffer, ?_, ?_⟩
  · simp only [after, take, hpull]
  · have hnone : selector.pull first walk = .ended :=
      (pull_of_ok hfirst []).trans ((pull_of_ok hpast []).trans (pull_nothing ..))
    simp [pulled, pulls, take, hnone]
  · have hfound : selector.pull second walk = .found "apps/b/apps/new.ts" ⟨[], [["apps", "b", "apps", "b"]]⟩ :=
      (pull_of_ok hsecond []).trans (pull_listed ..)
    have hnone : selector.pull second ⟨[], [["apps", "b", "apps", "b"]]⟩ = .ended :=
      (pull_of_ok hpast' []).trans (pull_nothing ..)
    simp [pulled, pulls, take, hfound, hnone]

end Selector

end PreMerge
