import PreMerge.Proofs.Files.Lookups

/-! Trees that differ only in what files there are in one directory, as they do when a file is put there or erased
(`differAt_put`, `differAt_erase`). A file leads nowhere, and neither does a name that is missing, so a path leads to the
same directories and links in both (`DifferAt.follow`). -/

namespace PreMerge

/-- Whether there is nothing, or a file, so that no way leads on. -/
def Outline.EndsWay (outline : Option Outline) : Prop :=
  outline = none ∨ outline = some .file

theorem Outline.not_endsWay_directory : ¬ EndsWay (some .directory) := by
  rintro (h | h) <;> cases h

theorem Outline.not_endsWay_link (target : String) : ¬ EndsWay (some (.link target)) := by
  rintro (h | h) <;> cases h

namespace Node

variable {root new : Node} {entries : List (String × Node)} {place other : List String} {name step : String}

theorem outlineAt_nil (root : Node) : root.outlineAt [] = some root.outline :=
  rfl

theorem outlineAt_append (h : root.at? place = some (directory entries)) (rest : List String) :
    root.outlineAt (place ++ rest) = (directory entries).outlineAt rest := by
  rw [outlineAt, at?_append, h]
  rfl

theorem outlineAt_cons (entries : List (String × Node)) (step : String) (rest : List String) :
    (directory entries).outlineAt (step :: rest) = (find? step entries).bind (outlineAt · rest) := by
  rw [outlineAt, at?, Option.map_bind]
  rfl

theorem find?_alter (change : Option Node → Node) :
    find? step (alter name change entries) =
      if step = name then some (change (find? name entries)) else find? step entries := by
  induction entries with
  | nil => simp [alter, find?, eq_comm]
  | cons entry rest ih =>
      obtain ⟨first, node⟩ := entry
      rw [alter]
      by_cases hfirst : first = name
      · subst hfirst
        rw [if_pos rfl, find?, find?, find?, if_pos rfl]
        by_cases hstep : first = step
        · rw [if_pos hstep, if_pos hstep.symm]
        · rw [if_neg hstep, if_neg (Ne.symm hstep), if_neg hstep]
      · rw [if_neg hfirst, find?, find?, find?, if_neg hfirst, ih]
        by_cases hstep : first = step
        · rw [if_pos hstep, if_pos hstep, if_neg (hstep ▸ hfirst)]
        · rw [if_neg hstep, if_neg hstep]

theorem find?_filter_ne :
    find? step (entries.filter (·.1 != name)) = if step = name then none else find? step entries := by
  induction entries with
  | nil => rw [List.filter_nil, find?, ite_self]
  | cons entry rest ih =>
      obtain ⟨first, node⟩ := entry
      by_cases hfirst : first = name
      · subst hfirst
        rw [List.filter_cons_of_neg (by simp), ih, find?]
        by_cases hstep : step = first
        · rw [if_pos hstep, if_pos hstep]
        · rw [if_neg hstep, if_neg hstep, if_neg (Ne.symm hstep)]
      · rw [List.filter_cons_of_pos (by simpa using hfirst), find?, find?, ih]
        by_cases hstep : first = step
        · rw [if_pos hstep, if_neg (hstep ▸ hfirst), if_pos hstep]
        · rw [if_neg hstep, if_neg hstep]

/-- Below a place where no way leads on there is nothing. -/
theorem outlineAt_below (h : Outline.EndsWay (root.outlineAt place)) {rest : List String} (hne : rest ≠ []) :
    root.outlineAt (place ++ rest) = none := by
  rw [outlineAt] at h
  rw [outlineAt, at?_append]
  cases hat : root.at? place with
  | none => rfl
  | some node =>
      rw [hat] at h
      cases rest with
      | nil => exact absurd rfl hne
      | cons step rest =>
          cases node with
          | file => rfl
          | link => rfl
          | directory inner => exact absurd h Outline.not_endsWay_directory

/-- A file put where no way leads on is all that changes. -/
theorem outlineAt_put (hplace : root.at? place = some (.directory entries))
    (hold : Outline.EndsWay (root.outlineAt (place ++ [name]))) (hnew : new.outline = .file) (other : List String) :
    (root.put (place ++ [name]) new).outlineAt other =
      if other = place ++ [name] then some .file else root.outlineAt other := by
  induction place generalizing root other with
  | nil =>
      cases hplace
      rw [List.nil_append] at hold ⊢
      rw [put]
      cases other with
      | nil => rfl
      | cons step rest =>
          rw [outlineAt_cons, find?_alter]
          by_cases hstep : step = name
          · subst hstep
            rw [if_pos rfl, put, Option.bind_some]
            by_cases hrest : rest = []
            · rw [hrest, if_pos rfl, outlineAt_nil, hnew]
            · have hfile : Outline.EndsWay (new.outlineAt []) := .inr (congrArg some hnew)
              have hnew := outlineAt_below hfile hrest
              have hold := outlineAt_below hold hrest
              rw [List.nil_append] at hnew
              rw [hnew, if_neg (by simpa using hrest)]
              exact hold.symm
          · rw [if_neg hstep, if_neg (by simp [hstep]), outlineAt_cons]
  | cons first place ih =>
      cases root with
      | file => cases hplace
      | link => cases hplace
      | directory outer =>
          obtain ⟨child, hchild, hinner⟩ := Option.bind_eq_some_iff.mp hplace
          rw [List.cons_append, outlineAt_cons, hchild, Option.bind_some] at hold
          rw [List.cons_append, put]
          cases other with
          | nil => rfl
          | cons step rest =>
              rw [outlineAt_cons, outlineAt_cons, find?_alter]
              by_cases hstep : step = first
              · subst hstep
                rw [if_pos rfl, hchild, Option.bind_some, Option.getD_some, Option.bind_some, ih hinner hold]
                simp
              · rw [if_neg hstep, if_neg (by simp [hstep])]

/-- A file that is erased is all that changes. -/
theorem outlineAt_erase (hplace : root.at? place = some (.directory entries))
    (hold : Outline.EndsWay (root.outlineAt (place ++ [name]))) (other : List String) :
    (root.erase (place ++ [name])).outlineAt other =
      if other = place ++ [name] then none else root.outlineAt other := by
  induction place generalizing root other with
  | nil =>
      cases hplace
      rw [List.nil_append] at hold ⊢
      rw [erase]
      cases other with
      | nil => rfl
      | cons step rest =>
          rw [outlineAt_cons, find?_filter_ne]
          by_cases hstep : step = name
          · subst hstep
            rw [if_pos rfl, Option.bind_none]
            by_cases hrest : rest = []
            · rw [hrest, if_pos rfl]
            · rw [if_neg (by simpa using hrest)]
              exact (outlineAt_below hold hrest).symm
          · rw [if_neg hstep, if_neg (by simp [hstep]), outlineAt_cons]
  | cons first place ih =>
      cases root with
      | file => cases hplace
      | link => cases hplace
      | directory outer =>
          obtain ⟨child, hchild, hinner⟩ := Option.bind_eq_some_iff.mp hplace
          rw [List.cons_append, outlineAt_cons, hchild, Option.bind_some] at hold
          rw [List.cons_append, erase, hchild]
          · dsimp only
            cases other with
            | nil => rfl
            | cons step rest =>
                rw [outlineAt_cons, outlineAt_cons, find?_alter]
                by_cases hstep : step = first
                · subst hstep
                  rw [if_pos rfl, hchild, Option.bind_some, Option.bind_some, ih hinner hold]
                  simp
                · rw [if_neg hstep, if_neg (by simp [hstep])]
          · intro h
            simp at h

end Node

namespace FileTree

open Outline (EndsWay)

/-- Two trees of which each may have files in the directory at a place that the other does not have. The bytes of files
may differ anywhere. -/
structure DifferAt (place : List String) (first second : FileTree) : Prop where
  here : second.here = first.here
  denied : second.denied = first.denied
  outlines : ∀ other, second.root.outlineAt other = first.root.outlineAt other ∨
    (∃ name, other = place ++ [name]) ∧ EndsWay (first.root.outlineAt other) ∧ EndsWay (second.root.outlineAt other)

namespace DifferAt

variable {first second : FileTree} {place there : List String} {path : Path} {shown : String} {last : Bool}

theorem symm (h : DifferAt place first second) : DifferAt place second first := by
  refine ⟨h.here.symm, h.denied.symm, fun other => ?_⟩
  rcases h.outlines other with hsame | ⟨hentry, hfirst, hsecond⟩
  · exact .inl hsame.symm
  · exact .inr ⟨hentry, hsecond, hfirst⟩

theorem trans {third : FileTree} (h : DifferAt place first second) (hnext : DifferAt place second third) :
    DifferAt place first third := by
  refine ⟨hnext.here.trans h.here, hnext.denied.trans h.denied, fun other => ?_⟩
  rcases h.outlines other with hsame | ⟨hentry, hfirst, hsecond⟩
  · rw [← hsame]
    exact hnext.outlines other
  · rcases hnext.outlines other with hsame | ⟨-, -, hthird⟩
    · exact .inr ⟨hentry, hfirst, hsame ▸ hsecond⟩
    · exact .inr ⟨hentry, hfirst, hthird⟩

theorem outline_eq (h : DifferAt place first second) {outline : Option Outline}
    (houtline : first.root.outlineAt there = outline) (hon : ¬ EndsWay outline) :
    second.root.outlineAt there = outline := by
  subst houtline
  exact (h.outlines there).resolve_right fun hdiffer => hon hdiffer.2.1

/-- A path that leads to a directory or to a link leads there in both trees. -/
theorem follow (h : DifferAt place first second) {budget : Nat} {here steps : List String}
    (hfollow : follow first.root last budget here steps = .ok there)
    (hon : ¬ EndsWay (first.root.outlineAt there)) :
    FileTree.follow second.root last budget here steps = .ok there := by
  fun_induction lookups first.root last budget here steps with
  | case1 =>
      rw [FileTree.follow] at hfollow ⊢
      exact hfollow
  | case2 budget here rest ih =>
      rw [FileTree.follow, if_pos rfl] at hfollow ⊢
      exact ih hfollow
  | case3 budget here rest hdot ih =>
      rw [FileTree.follow, if_neg hdot, if_pos rfl] at hfollow ⊢
      exact ih hfollow
  | case4 budget here step rest hdot hup hsize =>
      rw [FileTree.follow, if_neg hdot, if_neg hup, if_pos hsize] at hfollow
      cases hfollow
  | case5 budget here step rest hdot hup hsize hnone =>
      rw [follow_cons rest hdot hup hsize, hnone] at hfollow
      cases hfollow
  | case6 budget here step rest hdot hup hsize hdirectory ih =>
      rw [follow_cons rest hdot hup hsize, hdirectory] at hfollow
      rw [follow_cons rest hdot hup hsize, h.outline_eq hdirectory Outline.not_endsWay_directory]
      exact ih hfollow
  | case7 budget here step rest hdot hup hsize hfile =>
      rw [follow_cons rest hdot hup hsize, hfile] at hfollow
      dsimp only at hfollow
      split at hfollow
      · cases hfollow
        exact absurd (.inr hfile) hon
      · cases hfollow
  | case8 budget here step rest hdot hup hsize target hlink hend =>
      rw [follow_cons rest hdot hup hsize, hlink] at hfollow
      rw [follow_cons rest hdot hup hsize, h.outline_eq hlink (Outline.not_endsWay_link target)]
      simpa only [if_pos hend] using hfollow
  | case9 here step rest hdot hup hsize target hlink hend =>
      rw [follow_cons rest hdot hup hsize, hlink] at hfollow
      simp only [if_neg hend] at hfollow
      cases hfollow
  | case10 here step rest hdot hup hsize target hlink hend left ih =>
      rw [follow_cons rest hdot hup hsize, hlink] at hfollow
      rw [follow_cons rest hdot hup hsize, h.outline_eq hlink (Outline.not_endsWay_link target)]
      simp only [if_neg hend] at hfollow ⊢
      exact ih hfollow

theorem locate (h : DifferAt place first second) (hlocate : first.locate last path shown = .ok there)
    (hon : ¬ EndsWay (first.root.outlineAt there)) : second.locate last path shown = .ok there := by
  obtain ⟨hfits, hfollow⟩ := locate_eq_ok.mp hlocate
  have hstart : second.start path.anchor = first.start path.anchor := by
    cases path.anchor with
    | here => exact h.here
    | root => rfl
    | doubleRoot => rfl
  refine locate_eq_ok.mpr ⟨hfits, ?_⟩
  rw [hstart]
  exact h.follow hfollow hon

theorem node? (h : DifferAt place first second) {outline : Outline} (hon : ¬ EndsWay (some outline))
    (hnode : (first.node? last path shown).map Node.outline = .ok outline) :
    (second.node? last path shown).map Node.outline = .ok outline := by
  cases hfirst : first.node? last path shown with
  | error refusal =>
      rw [hfirst] at hnode
      cases hnode
  | ok node =>
      rw [hfirst] at hnode
      obtain ⟨there, hlocate, hat⟩ := node?_eq_ok.mp hfirst
      have houtline : first.root.outlineAt there = some outline := by
        rw [Node.outlineAt, hat, Option.map_some, Except.ok.inj hnode]
      have hother := h.locate hlocate (by rwa [houtline])
      rw [node?_outline_congr (hother.trans hlocate.symm), hfirst, hnode]
      intro other hwhere
      obtain rfl := locate_unique hlocate hwhere
      exact (h.outline_eq houtline hon).trans houtline.symm

theorem isLink_eq (h : DifferAt place first second) : second.isLink path shown = first.isLink path shown := by
  rw [Bool.eq_iff_iff, isLink_iff, isLink_iff]
  constructor
  · rintro ⟨target, hnode⟩
    exact ⟨target, h.symm.node? (Outline.not_endsWay_link target) hnode⟩
  · rintro ⟨target, hnode⟩
    exact ⟨target, h.node? (Outline.not_endsWay_link target) hnode⟩

theorem isDirectory_eq (h : DifferAt place first second) :
    second.isDirectory path shown = first.isDirectory path shown := by
  rw [Bool.eq_iff_iff, isDirectory_iff, isDirectory_iff]
  exact ⟨h.symm.node? Outline.not_endsWay_directory, h.node? Outline.not_endsWay_directory⟩

/-- The trees agree on what is below a directory if the place where they differ is not in it. -/
theorem outlineAt_below (h : DifferAt place first second)
    {entries others : List (String × Node)} (hfirst : first.root.at? there = some (.directory entries))
    (hsecond : second.root.at? there = some (.directory others)) (hapart : ¬ there <+: place) (rest : List String) :
    (Node.directory others).outlineAt rest = (Node.directory entries).outlineAt rest := by
  rw [← Node.outlineAt_append hfirst, ← Node.outlineAt_append hsecond]
  rcases List.eq_nil_or_concat rest with rfl | ⟨init, last, rfl⟩
  · rw [Node.outlineAt_append hfirst, Node.outlineAt_append hsecond]
    rfl
  · refine (h.outlines _).resolve_right ?_
    rintro ⟨⟨name, hplace⟩, -⟩
    rw [List.concat_eq_append, ← List.append_assoc] at hplace
    exact hapart ⟨init, (List.append_inj' hplace rfl).1⟩

theorem node?_directory (h : DifferAt place first second) {entries others : List (String × Node)}
    (hfirst : first.node? true path shown = .ok (.directory entries))
    (hsecond : second.node? true path shown = .ok (.directory others)) :
    ∃ there, first.locate true path shown = .ok there ∧ first.root.at? there = some (.directory entries) ∧
      second.root.at? there = some (.directory others) := by
  obtain ⟨there, hlocate, hat⟩ := node?_eq_ok.mp hfirst
  obtain ⟨other, hother, hat'⟩ := node?_eq_ok.mp hsecond
  have hthere : second.locate true path shown = .ok there := by
    apply h.locate hlocate
    rw [Node.outlineAt, hat]
    exact Outline.not_endsWay_directory
  obtain rfl := locate_unique hthere hother
  exact ⟨there, hlocate, hat, hat'⟩

theorem list_iff (h : DifferAt place first second) (path : Path) (shown : String) :
    (∃ listing, second.list path shown = .ok listing) ↔ ∃ listing, first.list path shown = .ok listing := by
  rw [exists_list_iff, exists_list_iff, h.isDirectory_eq, isDenied, isDenied, h.denied]

end DifferAt

variable {tree : FileTree} {place : List String} {entries : List (String × Node)}

theorem differAt_put (hplace : tree.root.at? place = some (.directory entries)) (name : String)
    (hold : EndsWay (tree.root.outlineAt (place ++ [name]))) (content : ByteArray) (runnable : Bool) :
    DifferAt place tree { tree with root := tree.root.put (place ++ [name]) (.file content runnable) } := by
  refine ⟨rfl, rfl, fun other => ?_⟩
  rw [Node.outlineAt_put hplace hold rfl]
  by_cases hother : other = place ++ [name]
  · rw [if_pos hother, hother]
    exact .inr ⟨⟨name, rfl⟩, hold, .inr rfl⟩
  · rw [if_neg hother]
    exact .inl rfl

theorem differAt_erase (hplace : tree.root.at? place = some (.directory entries)) (name : String)
    (hold : EndsWay (tree.root.outlineAt (place ++ [name]))) :
    DifferAt place tree { tree with root := tree.root.erase (place ++ [name]) } := by
  refine ⟨rfl, rfl, fun other => ?_⟩
  rw [Node.outlineAt_erase hplace hold]
  by_cases hother : other = place ++ [name]
  · rw [if_pos hother, hother]
    exact .inr ⟨⟨name, rfl⟩, hold, .inl rfl⟩
  · rw [if_neg hother]
    exact .inl rfl

end FileTree

end PreMerge
