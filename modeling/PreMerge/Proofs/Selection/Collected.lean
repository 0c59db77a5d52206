import PreMerge.Proofs.Selection.Visit
import PreMerge.Selection.Candidates

/-! Collecting the candidates. They are those that the whole walk gives, cut off at the limit, and a fault
counts only if the walk meets it before it goes beyond the limit (`collect_cases`). Faults are those of the
system if the root is a path that can be there, and so are the candidates (`trace_fault_of_root`,
`trace_names`). -/

namespace PreMerge

namespace Selector

variable {selector : Selector} {tree : FileTree}

/-- A walk ends early for reasons of the system, or because no path is like one of its own. -/
theorem trace_fault {walk : Walk} {fault : Fault} (h : (selector.trace tree walk).2 = some fault) :
    fault = .nullInPath ∨ fault.kind = .system := by
  have hfault : ∀ fault, (selector.trace tree walk).2 = some fault →
      ∃ names, True ∧ selector.visit tree names = .error fault :=
    (trace_of_closed (fun _ _ _ _ _ _ => trivial) walk fun _ _ => trivial).1
  obtain ⟨names, -, hvisit⟩ := hfault fault h
  exact (FileTree.list_error (visit_error hvisit)).imp And.right And.right

/-- The whole walk meets only directories that may be entered. -/
theorem trace_enterable (selector : Selector) (hnamed : tree.WellNamed) :
    (∀ fault, (selector.trace tree .fresh).2 = some fault →
      ∃ names, Enterable selector names ∧ selector.visit tree names = .error fault) ∧
    ∀ path ∈ (selector.trace tree .fresh).1,
      ∃ names listing, Enterable selector names ∧ selector.visit tree names = .ok listing ∧
        path ∈ listing.files := by
  have hfresh : ∀ names ∈ Walk.fresh.pending, Enterable selector names := by
    intro names hnames
    rw [List.mem_singleton.mp hnames]
    exact Enterable.root selector
  obtain ⟨hfault, hfiles⟩ := trace_of_closed
    (fun _ _ hnames hvisit _ hdirectory => Enterable.visit hnames hnamed hvisit hdirectory) .fresh hfresh
  exact ⟨hfault, fun path hpath => (hfiles path hpath).resolve_left (by nofun)⟩

theorem trace_fault_of_root (hnamed : tree.WellNamed) (hroot : selector.root.hasNull = false) {fault : Fault}
    (h : (selector.trace tree .fresh).2 = some fault) : fault.kind = .system := by
  obtain ⟨names, hnames, hvisit⟩ := (selector.trace_enterable hnamed).1 fault h
  rcases FileTree.list_error (visit_error hvisit) with ⟨hnull, -⟩ | ⟨-, hsystem⟩
  · have hno : (selector.root.extend names).hasNull = false := by
      rw [Path.hasNull, Path.extend, List.any_append, ← Path.hasNull, hroot, Bool.false_or, List.any_eq_false]
      intro name hname
      simpa using FileTree.null_not_mem (hnames.isName name hname)
    rw [hno] at hnull
    cases hnull
  · exact hsystem

/-- Every part of a candidate is the name of an entry. -/
theorem trace_names (hnamed : tree.WellNamed) {path : String} (hpath : path ∈ (selector.trace tree .fresh).1) :
    ∀ name ∈ namesOf path, FileTree.isName name = true := by
  obtain ⟨names, listing, hnames, hvisit, hfile⟩ := (selector.trace_enterable hnamed).2 path hpath
  obtain ⟨-, file, hname, -, rfl⟩ := visit_files hnamed hvisit hfile
  rw [namesOf_selected hnames hname]
  exact List.forall_mem_append.mpr ⟨hnames.isName, List.forall_mem_singleton.mpr hname⟩

/-- The walk goes wrong before it goes beyond the limit, or the candidates are its first files. -/
theorem collect_cases {limit : Nat} (hlimit : selector.countable = .ok limit) (tree : FileTree) :
    (∃ fault, (selector.trace tree .fresh).2 = some fault ∧ (selector.trace tree .fresh).1.length ≤ limit ∧
      selector.collect tree = .error fault) ∨
    (((selector.trace tree .fresh).2 = none ∨ limit < (selector.trace tree .fresh).1.length) ∧
      ∃ log, selector.collect tree = .ok ((selector.trace tree .fresh).1.take limit, log)) := by
  unfold collect
  rw [hlimit]
  dsimp only
  split
  · next hmore => exact .inr ⟨.inr hmore, _, rfl⟩
  · next hfew =>
      have hle := Nat.not_lt.mp hfew
      cases hstop : (selector.trace tree .fresh).2 with
      | some fault => exact .inl ⟨fault, rfl, hle, rfl⟩
      | none =>
          refine .inr ⟨.inl rfl, [], ?_⟩
          rw [List.take_of_length_le hle]

/-- What a selection comes to if its record cannot be written: the fault of the record, or the same. -/
theorem collect_stamp (selector : Selector) (tree : FileTree) (stamp : Option Fault) :
    selector.collect tree stamp = selector.collect tree ∨
      ∃ fault, stamp = some fault ∧ selector.collect tree stamp = .error fault := by
  unfold collect
  cases selector.countable with
  | error fault => exact .inl rfl
  | ok limit =>
      dsimp only
      split
      · cases stamp with
        | none => exact .inl rfl
        | some fault => exact .inr ⟨fault, rfl, rfl⟩
      · exact .inl rfl

theorem collect_error {fault : Fault} (h : selector.collect tree = .error fault) :
    fault.kind = .value ∨ fault.kind = .system := by
  cases hlimit : selector.countable with
  | error other =>
      unfold collect at h
      rw [hlimit] at h
      cases h
      unfold countable at hlimit
      split at hlimit
      · cases hlimit
      · cases hlimit
        exact .inl rfl
  | ok limit =>
      rcases collect_cases hlimit tree with ⟨other, hstop, -, hcollect⟩ | ⟨-, log, hcollect⟩
      · rw [hcollect] at h
        cases h
        rcases trace_fault hstop with rfl | hsystem
        · exact .inl rfl
        · exact .inr hsystem
      · rw [hcollect] at h
        cases h

end Selector

end PreMerge
