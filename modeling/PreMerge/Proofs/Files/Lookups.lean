import PreMerge.Proofs.Files.Entries

/-! What of a tree a path depends on. On its way it looks up some places (`lookups`), and of the nodes there only the
outline counts: in a tree with the same outlines there it leads to the same place (`follow_congr`). More links may be
followed with more budget, and then nothing else is looked up before (`lookups_subset`). From a directory a path goes
on as if it had started there (`follow_append`), and below a directory it looks up the names that it is made of,
until it follows a link (`mem_lookups_below`). -/

namespace PreMerge

/-- What of a node can be seen from the directory it is in. -/
inductive Outline
  | file
  | link (target : String)
  | directory
  deriving DecidableEq, Repr

namespace Node

def outline : Node → Outline
  | .file _ _ => .file
  | .link target => .link target
  | .directory _ => .directory

theorem outline_eq_file {node : Node} : node.outline = .file ↔ ∃ content runnable, node = .file content runnable := by
  cases node <;> simp [outline]

theorem outline_eq_link {node : Node} {target : String} : node.outline = .link target ↔ node = .link target := by
  cases node <;> simp [outline]

theorem outline_eq_directory {node : Node} : node.outline = .directory ↔ ∃ entries, node = .directory entries := by
  cases node <;> simp [outline]

/-- The outline of what is at a place, if something is. -/
def outlineAt (root : Node) (place : List String) : Option Outline :=
  (root.at? place).map outline

theorem outlineAt_append_single {root : Node} {place : List String} {entries : List (String × Node)}
    (h : root.at? place = some (.directory entries)) (name : String) :
    root.outlineAt (place ++ [name]) = (find? name entries).map outline := by
  rw [outlineAt, at?_append, h, Option.bind_some, at?_single]

end Node

namespace FileTree

/-- The places that are looked up on the way that steps lead. -/
def lookups (root : Node) (last : Bool) (budget : Nat) (here : List String) : List String → List (List String)
  | [] => []
  | step :: rest =>
    if step = "." then lookups root last budget here rest
    else if step = ".." then lookups root last budget here.dropLast rest
    else if step.utf8ByteSize > 255 then []
    else match root.outlineAt (here ++ [step]) with
      | none => [here ++ [step]]
      | some .directory => (here ++ [step]) :: lookups root last budget (here ++ [step]) rest
      | some .file => [here ++ [step]]
      | some (.link target) =>
        if rest = [] ∧ last = false then [here ++ [step]]
        else match budget with
          | 0 => [here ++ [step]]
          | left + 1 => (here ++ [step]) :: lookups root last left (startOf target here) (stepsOf target ++ rest)
  termination_by steps => (budget, steps.length)

variable {root other : Node} {last : Bool} {budget : Nat} {here steps place : List String} {step : String}

/-- A step of a path, told from the outline of what it looks up. -/
theorem follow_cons (rest : List String) (hdot : step ≠ ".") (hup : step ≠ "..")
    (hsize : ¬ step.utf8ByteSize > 255) :
    follow root last budget here (step :: rest) = match root.outlineAt (here ++ [step]) with
      | none => .error .notFound
      | some .directory => follow root last budget (here ++ [step]) rest
      | some .file => if rest = [] then .ok (here ++ [step]) else .error .notDirectory
      | some (.link target) =>
        if rest = [] ∧ last = false then .ok (here ++ [step])
        else match budget with
          | 0 => .error .linkLoop
          | left + 1 => follow root last left (startOf target here) (stepsOf target ++ rest) := by
  rw [follow, if_neg hdot, if_neg hup, if_neg hsize, Node.outlineAt]
  cases root.at? (here ++ [step]) with
  | none => rfl
  | some node => cases node <;> rfl

theorem lookups_cons (rest : List String) (hdot : step ≠ ".") (hup : step ≠ "..")
    (hsize : ¬ step.utf8ByteSize > 255) :
    lookups root last budget here (step :: rest) = match root.outlineAt (here ++ [step]) with
      | none => [here ++ [step]]
      | some .directory => (here ++ [step]) :: lookups root last budget (here ++ [step]) rest
      | some .file => [here ++ [step]]
      | some (.link target) =>
        if rest = [] ∧ last = false then [here ++ [step]]
        else match budget with
          | 0 => [here ++ [step]]
          | left + 1 =>
            (here ++ [step]) :: lookups root last left (startOf target here) (stepsOf target ++ rest) := by
  rw [lookups, if_neg hdot, if_neg hup, if_neg hsize]

/-- A path depends on the outlines of what it looks up, and on nothing else. -/
theorem follow_congr (h : ∀ place ∈ lookups root last budget here steps,
      other.outlineAt place = root.outlineAt place) :
    follow other last budget here steps = follow root last budget here steps := by
  fun_induction lookups root last budget here steps with
  | case1 => rw [follow, follow]
  | case2 budget here rest ih =>
      rw [follow, if_pos rfl, follow, if_pos rfl]
      exact ih h
  | case3 budget here rest hdot ih =>
      rw [follow, if_neg hdot, if_pos rfl, follow, if_neg hdot, if_pos rfl]
      exact ih h
  | case4 budget here step rest hdot hup hsize =>
      rw [follow, if_neg hdot, if_neg hup, if_pos hsize, follow, if_neg hdot, if_neg hup, if_pos hsize]
  | case5 budget here step rest hdot hup hsize hnone =>
      rw [follow_cons rest hdot hup hsize, follow_cons rest hdot hup hsize, h _ List.mem_cons_self, hnone]
  | case6 budget here step rest hdot hup hsize hdirectory ih =>
      obtain ⟨hfirst, hrest⟩ := List.forall_mem_cons.mp h
      rw [follow_cons rest hdot hup hsize, follow_cons rest hdot hup hsize, hfirst, hdirectory]
      exact ih hrest
  | case7 budget here step rest hdot hup hsize hfile =>
      rw [follow_cons rest hdot hup hsize, follow_cons rest hdot hup hsize, h _ List.mem_cons_self, hfile]
  | case8 budget here step rest hdot hup hsize target hlink hend =>
      rw [follow_cons rest hdot hup hsize, follow_cons rest hdot hup hsize, h _ List.mem_cons_self, hlink]
      simp only [if_pos hend]
  | case9 here step rest hdot hup hsize target hlink hend =>
      rw [follow_cons rest hdot hup hsize, follow_cons rest hdot hup hsize, h _ List.mem_cons_self, hlink]
  | case10 here step rest hdot hup hsize target hlink hend left ih =>
      obtain ⟨hfirst, hrest⟩ := List.forall_mem_cons.mp h
      rw [follow_cons rest hdot hup hsize, follow_cons rest hdot hup hsize, hfirst, hlink]
      simp only [if_neg hend]
      exact ih hrest

/-- A path that may follow more links looks up all that it would without. -/
theorem lookups_subset {more : Nat} (h : budget ≤ more) :
    lookups root last budget here steps ⊆ lookups root last more here steps := by
  fun_induction lookups root last budget here steps generalizing more with
  | case1 => exact List.nil_subset _
  | case2 budget here rest ih =>
      rw [lookups, if_pos rfl]
      exact ih h
  | case3 budget here rest hdot ih =>
      rw [lookups, if_neg hdot, if_pos rfl]
      exact ih h
  | case4 => exact List.nil_subset _
  | case5 budget here step rest hdot hup hsize hnone =>
      rw [lookups_cons rest hdot hup hsize, hnone]
      exact List.Subset.refl _
  | case6 budget here step rest hdot hup hsize hdirectory ih =>
      rw [lookups_cons rest hdot hup hsize, hdirectory]
      exact List.cons_subset_cons _ (ih h)
  | case7 budget here step rest hdot hup hsize hfile =>
      rw [lookups_cons rest hdot hup hsize, hfile]
      exact List.Subset.refl _
  | case8 budget here step rest hdot hup hsize target hlink hend =>
      rw [lookups_cons rest hdot hup hsize, hlink]
      simp only [if_pos hend]
      exact List.Subset.refl _
  | case9 here step rest hdot hup hsize target hlink hend =>
      rw [lookups_cons rest hdot hup hsize, hlink]
      simp only [if_neg hend]
      cases more with
      | zero => exact List.Subset.refl _
      | succ left => exact List.cons_subset_cons _ (List.nil_subset _)
  | case10 here step rest hdot hup hsize target hlink hend left ih =>
      rw [lookups_cons rest hdot hup hsize, hlink]
      simp only [if_neg hend]
      cases more with
      | zero => cases h
      | succ further => exact List.cons_subset_cons _ (ih (Nat.le_of_succ_le_succ h))

/-- A path leads to where it starts, or to what it looks up in such a place, or above. -/
theorem follow_closed {P : List String → Prop} (htop : P []) (habove : ∀ place, P place → P place.dropLast)
    (hhere : P here) (hlookups : ∀ place ∈ lookups root last budget here steps, P place.dropLast → P place)
    (h : follow root last budget here steps = .ok place) : P place := by
  have hdown : ∀ {here : List String} {step}, P here → (P (here ++ [step]).dropLast → P (here ++ [step])) →
      P (here ++ [step]) := by
    intro here step hhere hstep
    rw [List.dropLast_concat] at hstep
    exact hstep hhere
  fun_induction lookups root last budget here steps with
  | case1 =>
      rw [follow] at h
      cases h
      exact hhere
  | case2 budget here rest ih =>
      rw [follow, if_pos rfl] at h
      exact ih hhere hlookups h
  | case3 budget here rest hdot ih =>
      rw [follow, if_neg hdot, if_pos rfl] at h
      exact ih (habove here hhere) hlookups h
  | case4 budget here step rest hdot hup hsize =>
      rw [follow, if_neg hdot, if_neg hup, if_pos hsize] at h
      cases h
  | case5 budget here step rest hdot hup hsize hnone =>
      rw [follow_cons rest hdot hup hsize, hnone] at h
      cases h
  | case6 budget here step rest hdot hup hsize hdirectory ih =>
      obtain ⟨hfirst, hrest⟩ := List.forall_mem_cons.mp hlookups
      rw [follow_cons rest hdot hup hsize, hdirectory] at h
      exact ih (hdown hhere hfirst) hrest h
  | case7 budget here step rest hdot hup hsize hfile =>
      rw [follow_cons rest hdot hup hsize, hfile] at h
      dsimp only at h
      split at h
      · cases h
        exact hdown hhere (hlookups _ List.mem_cons_self)
      · cases h
  | case8 budget here step rest hdot hup hsize target hlink hend =>
      rw [follow_cons rest hdot hup hsize, hlink] at h
      simp only [if_pos hend] at h
      cases h
      exact hdown hhere (hlookups _ List.mem_cons_self)
  | case9 here step rest hdot hup hsize target hlink hend =>
      rw [follow_cons rest hdot hup hsize, hlink] at h
      simp only [if_neg hend] at h
      cases h
  | case10 here step rest hdot hup hsize target hlink hend left ih =>
      obtain ⟨hfirst, hrest⟩ := List.forall_mem_cons.mp hlookups
      rw [follow_cons rest hdot hup hsize, hlink] at h
      simp only [if_neg hend] at h
      refine ih ?_ hrest h
      unfold startOf
      split
      · exact hhere
      · exact htop

/-- From a directory that a path leads to, the way goes on as if it had started there. -/
theorem follow_append (h : follow root true budget here steps = .ok place)
    (hplace : root.outlineAt place = some .directory) :
    ∃ left, left ≤ budget ∧ ∀ last more, more ≠ [] →
      follow root last budget here (steps ++ more) = follow root last left place more ∧
      lookups root last budget here (steps ++ more) =
        lookups root true budget here steps ++ lookups root last left place more := by
  fun_induction lookups root true budget here steps with
  | case1 =>
      rw [follow] at h
      cases h
      exact ⟨_, Nat.le_refl _, fun last more _ => ⟨rfl, rfl⟩⟩
  | case2 budget here rest ih =>
      rw [follow, if_pos rfl] at h
      obtain ⟨left, hle, hmore⟩ := ih h
      refine ⟨left, hle, fun last more hne => ?_⟩
      rw [List.cons_append, follow, if_pos rfl, lookups, if_pos rfl]
      exact hmore last more hne
  | case3 budget here rest hdot ih =>
      rw [follow, if_neg hdot, if_pos rfl] at h
      obtain ⟨left, hle, hmore⟩ := ih h
      refine ⟨left, hle, fun last more hne => ?_⟩
      rw [List.cons_append, follow, if_neg hdot, if_pos rfl, lookups, if_neg hdot, if_pos rfl]
      exact hmore last more hne
  | case4 budget here step rest hdot hup hsize =>
      rw [follow, if_neg hdot, if_neg hup, if_pos hsize] at h
      cases h
  | case5 budget here step rest hdot hup hsize hnone =>
      rw [follow_cons rest hdot hup hsize, hnone] at h
      cases h
  | case6 budget here step rest hdot hup hsize hdirectory ih =>
      rw [follow_cons rest hdot hup hsize, hdirectory] at h
      obtain ⟨left, hle, hmore⟩ := ih h
      refine ⟨left, hle, fun last more hne => ?_⟩
      obtain ⟨hfollow, hlookups⟩ := hmore last more hne
      rw [List.cons_append, follow_cons _ hdot hup hsize, lookups_cons _ hdot hup hsize, hdirectory]
      exact ⟨hfollow, by rw [hlookups, List.cons_append]⟩
  | case7 budget here step rest hdot hup hsize hfile =>
      rw [follow_cons rest hdot hup hsize, hfile] at h
      dsimp only at h
      split at h
      · cases h
        rw [hfile] at hplace
        cases hplace
      · cases h
  | case8 budget here step rest hdot hup hsize target hlink hend =>
      cases hend.2
  | case9 here step rest hdot hup hsize target hlink hend =>
      rw [follow_cons rest hdot hup hsize, hlink] at h
      simp only [if_neg hend] at h
      cases h
  | case10 here step rest hdot hup hsize target hlink hend left ih =>
      rw [follow_cons rest hdot hup hsize, hlink] at h
      simp only [if_neg hend] at h
      obtain ⟨further, hle, hmore⟩ := ih h
      refine ⟨further, Nat.le_succ_of_le hle, fun last more hne => ?_⟩
      obtain ⟨hfollow, hlookups⟩ := hmore last more hne
      have hlater : ¬ (rest ++ more = [] ∧ last = false) := fun hboth => hne (List.append_eq_nil_iff.mp hboth.1).2
      rw [List.cons_append, follow_cons _ hdot hup hsize, lookups_cons _ hdot hup hsize, hlink]
      simp only [if_neg hlater]
      rw [← List.append_assoc]
      exact ⟨hfollow, by rw [hlookups, List.cons_append]⟩

/-- A name is looked up where it is, and a link of that name leads on. -/
theorem mem_lookups_single {name : String} (hentry : isEntryName name = true)
    (hplace : place ∈ lookups root last budget here [name]) :
    place = here ++ [name] ∨ ∃ target left, last = true ∧ left ≤ budget ∧
      root.outlineAt (here ++ [name]) = some (.link target) ∧
      place ∈ lookups root true left (startOf target here) (stepsOf target) := by
  obtain ⟨hdot, hup⟩ := isEntryName_iff.mp hentry
  by_cases hsize : name.utf8ByteSize > 255
  · rw [lookups, if_neg hdot, if_neg hup, if_pos hsize] at hplace
    cases hplace
  · rw [lookups_cons [] hdot hup hsize] at hplace
    split at hplace
    · exact .inl (List.mem_singleton.mp hplace)
    · rw [lookups] at hplace
      exact .inl (List.mem_singleton.mp hplace)
    · exact .inl (List.mem_singleton.mp hplace)
    · next target hlink =>
        split at hplace
        · exact .inl (List.mem_singleton.mp hplace)
        · next hend =>
            have hlast : last = true := by simpa using hend
            split at hplace
            · exact .inl (List.mem_singleton.mp hplace)
            · next left =>
                rcases List.mem_cons.mp hplace with rfl | hmore
                · exact .inl rfl
                · rw [List.append_nil, hlast] at hmore
                  exact .inr ⟨target, left, hlast, Nat.le_succ left, hlink, hmore⟩

/-- Below a directory, names lead from one place to the next, and a link at the end leads on. -/
theorem mem_lookups_below {name : String} {init : List String} {entries : List (String × Node)}
    (hinit : root.at? (here ++ init) = some (.directory entries))
    (hentry : ∀ step ∈ init ++ [name], isEntryName step = true)
    (hplace : place ∈ lookups root last budget here (init ++ [name])) :
    (∃ front, front <+: init ++ [name] ∧ place = here ++ front) ∨
    ∃ target left, last = true ∧ left ≤ budget ∧ root.outlineAt (here ++ init ++ [name]) = some (.link target) ∧
      place ∈ lookups root true left (startOf target (here ++ init)) (stepsOf target) := by
  induction init generalizing here with
  | nil =>
      rw [List.append_nil]
      rcases mem_lookups_single (hentry name List.mem_cons_self) hplace with rfl | hlink
      · exact .inl ⟨[name], List.prefix_refl _, rfl⟩
      · exact .inr hlink
  | cons step init ih =>
      obtain ⟨hstep, hrest⟩ := List.forall_mem_cons.mp hentry
      obtain ⟨hdot, hup⟩ := isEntryName_iff.mp hstep
      rw [List.append_cons here step init] at hinit ⊢
      have hdirectory : root.outlineAt (here ++ [step]) = some .directory := by
        obtain ⟨inner, hinner⟩ := Node.directory_of_at?_append hinit
        rw [Node.outlineAt, hinner]
        rfl
      by_cases hsize : step.utf8ByteSize > 255
      · rw [List.cons_append, lookups, if_neg hdot, if_neg hup, if_pos hsize] at hplace
        cases hplace
      · rw [List.cons_append, lookups_cons _ hdot hup hsize, hdirectory] at hplace
        rcases List.mem_cons.mp hplace with rfl | hmore
        · exact .inl ⟨[step], ⟨init ++ [name], rfl⟩, rfl⟩
        · rcases ih hinit hrest hmore with ⟨front, hfront, rfl⟩ | hlink
          · exact .inl ⟨step :: front, List.cons_prefix_cons.mpr ⟨rfl, hfront⟩, (List.append_cons ..).symm⟩
          · exact .inr hlink

section Trees

variable {tree first second : FileTree} {path : Path} {shown : String}

theorem locate_eq_ok : tree.locate last path shown = .ok place ↔ shown.utf8ByteSize < pathBound ∧
    follow tree.root last linkBudget (tree.start path.anchor) path.parts = .ok place := by
  rw [locate, arrive_eq_follow]
  by_cases hfits : shown.utf8ByteSize < pathBound
  · rw [if_pos hfits]
    exact ⟨fun h => ⟨hfits, h⟩, And.right⟩
  · rw [if_neg hfits]
    constructor
    · intro h
      cases h
    · intro h
      exact absurd h.1 hfits

/-- A path leads to one place, however it is spelt. -/
theorem locate_unique {spelt : String} {other : List String} (h : tree.locate last path shown = .ok place)
    (hother : tree.locate last path spelt = .ok other) : place = other := by
  have hfollow := (locate_eq_ok.mp h).2
  rw [(locate_eq_ok.mp hother).2] at hfollow
  cases hfollow
  rfl

theorem locate_congr (hhere : second.here = first.here)
    (h : ∀ place ∈ lookups first.root last linkBudget (first.start path.anchor) path.parts,
      second.root.outlineAt place = first.root.outlineAt place) (shown : String) :
    second.locate last path shown = first.locate last path shown := by
  have hstart : second.start path.anchor = first.start path.anchor := by
    cases path.anchor with
    | here => exact hhere
    | root => rfl
    | doubleRoot => rfl
  rw [locate, locate, arrive_eq_follow, arrive_eq_follow, hstart, follow_congr h]

/-- An entry of a directory is where it is named, or it is a link. -/
theorem locate_entry {entries : List (String × Node)} (hpath : tree.locate true path shown = .ok place)
    (hplace : tree.root.at? place = some (.directory entries)) {name longer : String}
    (hentry : isEntryName name = true) {there : List String}
    (hthere : tree.locate true (path.extend [name]) longer = .ok there) :
    there = place ++ [name] ∨ ∃ target, tree.root.outlineAt (place ++ [name]) = some (.link target) ∧
      tree.isLink (path.extend [name]) longer = true := by
  obtain ⟨hdot, hup⟩ := isEntryName_iff.mp hentry
  have hfits := (locate_eq_ok.mp hthere).1
  obtain ⟨left, hfollow⟩ := locate_extend hpath hplace hfits true name
  obtain ⟨left', hstay⟩ := locate_extend hpath hplace hfits false name
  by_cases hsize : name.utf8ByteSize > 255
  · rw [hfollow, follow, if_neg hdot, if_neg hup, if_pos hsize] at hthere
    cases hthere
  · rw [hfollow, follow_cons [] hdot hup hsize] at hthere
    rw [follow_cons [] hdot hup hsize] at hstay
    cases houtline : tree.root.outlineAt (place ++ [name]) with
    | none =>
        rw [houtline] at hthere
        cases hthere
    | some outline =>
        rw [houtline] at hthere hstay
        cases outline with
        | file =>
            cases hthere
            exact .inl rfl
        | directory =>
            rw [follow] at hthere
            cases hthere
            exact .inl rfl
        | link target =>
            refine .inr ⟨target, rfl, ?_⟩
            obtain ⟨node, hnode, hlink⟩ := Option.map_eq_some_iff.mp houtline
            rw [Node.outline_eq_link] at hlink
            rw [hlink] at hnode
            have hfound : tree.node? false (path.extend [name]) longer = .ok (.link target) :=
              node?_eq_ok.mpr ⟨_, hstay, hnode⟩
            rw [isLink, hfound]

/-- What is at a path shows alike where the path leads to the same place, and places there show alike. -/
theorem node?_outline_congr (hlocate : second.locate last path shown = first.locate last path shown)
    (hplace : ∀ place, first.locate last path shown = .ok place →
      second.root.outlineAt place = first.root.outlineAt place) :
    (second.node? last path shown).map Node.outline = (first.node? last path shown).map Node.outline := by
  rw [node?, node?, hlocate]
  cases hthere : first.locate last path shown with
  | error refusal => rfl
  | ok place =>
      have houtline := hplace place hthere
      rw [Node.outlineAt, Node.outlineAt] at houtline
      dsimp only
      cases hfirst : first.root.at? place with
      | none =>
          rw [hfirst, Option.map_none, Option.map_eq_none_iff] at houtline
          rw [houtline]
      | some node =>
          rw [hfirst, Option.map_some, Option.map_eq_some_iff] at houtline
          obtain ⟨other, hother, hsame⟩ := houtline
          rw [hother]
          exact congrArg Except.ok hsame

/-- An entry shows alike in both trees if it has the same outline, unless it is a link that is followed. -/
theorem node?_entry_congr (last : Bool) {entries others : List (String × Node)}
    (hfirst : first.node? true path shown = .ok (.directory entries))
    (hsecond : second.node? true path shown = .ok (.directory others)) {name : String}
    (hentry : isEntryName name = true)
    (houtline : (Node.find? name others).map Node.outline = (Node.find? name entries).map Node.outline)
    (hend : last = false ∨ ∀ target, (Node.find? name entries).map Node.outline ≠ some (.link target))
    (longer : String) :
    (second.node? last (path.extend [name]) longer).map Node.outline =
      (first.node? last (path.extend [name]) longer).map Node.outline := by
  have hnot : ∀ {node : Option Node}, (∀ target, node.map Node.outline ≠ some (.link target)) →
      ∀ target, node ≠ some (.link target) := by
    rintro _ hnode target rfl
    exact hnode target rfl
  rw [node?_entry hfirst hentry (hend.imp_right hnot),
    node?_entry hsecond hentry (hend.imp_right fun h => hnot (houtline ▸ h))]
  split
  · cases hfind : Node.find? name entries with
    | none =>
        rw [hfind, Option.map_none, Option.map_eq_none_iff] at houtline
        rw [houtline]
    | some node =>
        rw [hfind, Option.map_some, Option.map_eq_some_iff] at houtline
        obtain ⟨other, hother, hsame⟩ := houtline
        rw [hother]
        exact congrArg Except.ok hsame
  · rfl

theorem isLink_iff : tree.isLink path shown = true ↔
    ∃ target, (tree.node? false path shown).map Node.outline = .ok (.link target) := by
  unfold isLink
  cases tree.node? false path shown with
  | error refusal => simp [Except.map]
  | ok node => cases node <;> simp [Except.map, Node.outline]

theorem isDirectory_iff : tree.isDirectory path shown = true ↔
    (tree.node? true path shown).map Node.outline = .ok .directory := by
  unfold isDirectory
  cases tree.node? true path shown with
  | error refusal => simp [Except.map]
  | ok node => cases node <;> simp [Except.map, Node.outline]

theorem exists_directory_of_isDirectory (h : tree.isDirectory path shown = true) :
    ∃ place entries, tree.locate true path shown = .ok place ∧ tree.root.at? place = some (.directory entries) := by
  unfold isDirectory at h
  split at h
  · next entries hnode =>
      obtain ⟨place, hplace, hat⟩ := node?_eq_ok.mp hnode
      exact ⟨place, entries, hplace, hat⟩
  · cases h

/-- Listing is refused alike in both trees, or both have a directory there. -/
theorem list_congr (hdenied : second.isDenied path = first.isDenied path)
    (hnode : (second.node? true path shown).map Node.outline = (first.node? true path shown).map Node.outline) :
    (∃ fault, first.list path shown = .error fault ∧ second.list path shown = .error fault) ∨
    ∃ entries others, first.node? true path shown = .ok (.directory entries) ∧
      second.node? true path shown = .ok (.directory others) ∧
      first.list path shown = .ok (first.listing path shown entries) ∧
      second.list path shown = .ok (second.listing path shown others) := by
  unfold list
  rw [hdenied]
  split
  · exact .inl ⟨_, rfl, rfl⟩
  · split
    · exact .inl ⟨_, rfl, rfl⟩
    · cases hfirst : first.node? true path shown with
      | error refusal =>
          rw [hfirst] at hnode
          cases hsecond : second.node? true path shown with
          | error other =>
              rw [hsecond] at hnode
              cases hnode
              exact .inl ⟨_, rfl, rfl⟩
          | ok node =>
              rw [hsecond] at hnode
              cases hnode
      | ok node =>
          rw [hfirst] at hnode
          cases hsecond : second.node? true path shown with
          | error other =>
              rw [hsecond] at hnode
              cases hnode
          | ok other =>
              rw [hsecond] at hnode
              have hsame : other.outline = node.outline := Except.ok.inj hnode
              cases node with
              | file =>
                  obtain ⟨content, runnable, rfl⟩ := Node.outline_eq_file.mp hsame
                  exact .inl ⟨_, rfl, rfl⟩
              | link =>
                  obtain rfl := Node.outline_eq_link.mp hsame
                  exact .inl ⟨_, rfl, rfl⟩
              | directory entries =>
                  obtain ⟨others, rfl⟩ := Node.outline_eq_directory.mp hsame
                  exact .inr ⟨entries, others, rfl, rfl, rfl, rfl⟩

/-- Whether an entry leads to a directory depends on its outline, and for a link on where it leads. -/
theorem entersDirectory_congr {name : String} {node other : Option Node}
    (houtline : other.map Node.outline = node.map Node.outline)
    (hlink : ∀ target, node.map Node.outline = some (.link target) →
      second.isDirectory (path.extend [name]) (spell shown name) =
        first.isDirectory (path.extend [name]) (spell shown name)) :
    second.entersDirectory path shown name other = first.entersDirectory path shown name node := by
  cases node with
  | none =>
      rw [Option.map_none, Option.map_eq_none_iff] at houtline
      rw [houtline]
      rfl
  | some node =>
      rw [Option.map_some, Option.map_eq_some_iff] at houtline
      obtain ⟨inner, rfl, hsame⟩ := houtline
      cases node with
      | file =>
          obtain ⟨content, runnable, rfl⟩ := Node.outline_eq_file.mp hsame
          rfl
      | link =>
          obtain rfl := Node.outline_eq_link.mp hsame
          exact hlink _ rfl
      | directory =>
          obtain ⟨entries, rfl⟩ := Node.outline_eq_directory.mp hsame
          rfl

theorem mem_names_congr {entries others : List (String × Node)} {name : String}
    (houtline : (Node.find? name others).map Node.outline = (Node.find? name entries).map Node.outline) :
    name ∈ Node.names others ↔ name ∈ Node.names entries := by
  have hsome := congrArg Option.isSome houtline
  rw [Option.isSome_map, Option.isSome_map] at hsome
  rw [Node.mem_names, Node.mem_names, ← Option.isSome_iff_exists, ← Option.isSome_iff_exists, hsome]

end Trees

end FileTree

end PreMerge
