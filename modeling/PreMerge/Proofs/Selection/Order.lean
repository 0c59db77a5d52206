import PreMerge.Proofs.Files.Entries
import PreMerge.Proofs.Text.Lines
import PreMerge.Selection.Selector

/-! The order of a walk. Of two paths that part in some directory, one that ends there with a file comes
before one that goes on below a directory; otherwise the names at which they part decide, character by
character. The paths below a directory of one name therefore all come before those below a directory of a
later name (`leads_of_lt`), and no path comes before itself. -/

namespace PreMerge

namespace Selector

/-- The names along a path below the root. -/
def namesOf (path : String) : List String :=
  (Text.pieces '/' path.toList).map String.ofList

theorem namesOf_pathText {names : List String} (hne : names ≠ []) (hslash : ∀ name ∈ names, '/' ∉ name.toList) :
    namesOf (pathText names) = names := by
  rw [namesOf, pathText, Text.pieces_intercalate hne hslash, List.map_map]
  simp

/-- The order of a walk on paths that are given by their names. -/
inductive Precedes : List String → List String → Prop
  | file {a b : String} (h : a < b) : Precedes [a] [b]
  | fileFirst {a b c : String} {rest : List String} : Precedes [a] (b :: c :: rest)
  | directory {a b c d : String} {as bs : List String} (h : a < b) : Precedes (a :: c :: as) (b :: d :: bs)
  | inside {a : String} {as bs : List String} (h : Precedes as bs) : Precedes (a :: as) (a :: bs)

/-- The order of a walk on paths as they are selected. -/
def Earlier (path later : String) : Prop :=
  Precedes (namesOf path) (namesOf later)

theorem not_precedes_self (names : List String) : ¬ Precedes names names := by
  induction names with
  | nil => nofun
  | cons name rest ih =>
      intro h
      cases h with
      | file hlt => exact String.lt_irrefl name hlt
      | directory hlt => exact String.lt_irrefl name hlt
      | inside hrest => exact ih hrest

theorem Earlier.ne {path later : String} (h : Earlier path later) : path ≠ later := by
  rintro rfl
  exact not_precedes_self _ h

theorem precedes_append_left (base : List String) {as bs : List String} (h : Precedes as bs) :
    Precedes (base ++ as) (base ++ bs) := by
  induction base with
  | nil => exact h
  | cons name rest ih => exact .inside ih

/-- A path lies below a directory, at any depth. -/
def Below (directory path : List String) : Prop :=
  ∃ name rest, path = directory ++ name :: rest

theorem below_of_below_append {directory more path : List String} (h : Below (directory ++ more) path) :
    Below directory path := by
  obtain ⟨name, rest, rfl⟩ := h
  cases more with
  | nil => exact ⟨name, rest, by simp⟩
  | cons first more => exact ⟨first, more ++ name :: rest, by simp⟩

/-- All that lies below one directory comes before all that lies below another. -/
def Leads (directory later : List String) : Prop :=
  ∀ path next, Below directory path → Below later next → Precedes path next

theorem leads_of_lt (base : List String) {a b : String} (h : a < b) : Leads (base ++ [a]) (base ++ [b]) := by
  rintro path next ⟨name, rest, rfl⟩ ⟨name', rest', rfl⟩
  rw [List.append_assoc, List.append_assoc]
  exact precedes_append_left base (.directory h)

theorem precedes_of_file (base : List String) (file : String) {directory : String} {path : List String}
    (h : Below (base ++ [directory]) path) : Precedes (base ++ [file]) path := by
  obtain ⟨name, rest, rfl⟩ := h
  rw [List.append_assoc]
  exact precedes_append_left base .fileFirst

theorem sorted_perm (names : List String) : (sorted names).Perm names :=
  List.mergeSort_perm _ _

/-- Names that differ from one another are put in ascending order. -/
theorem sorted_pairwise_lt {names : List String} (h : names.Nodup) : (sorted names).Pairwise (· < ·) := by
  have hle : (sorted names).Pairwise fun left right => !decide (right < left) := by
    refine List.pairwise_mergeSort ?_ ?_ names
    · intro a b c hab hbc
      simp only [Bool.not_eq_true', decide_eq_false_iff_not, String.not_lt] at hab hbc ⊢
      exact String.le_trans hab hbc
    · intro a b
      simp only [Bool.or_eq_true, Bool.not_eq_true', decide_eq_false_iff_not, String.not_lt]
      exact String.le_total a b
  have hne : (sorted names).Nodup := (sorted_perm names).nodup_iff.mpr h
  refine (hle.and hne).imp fun {a b} hab => ?_
  simp only [Bool.not_eq_true', decide_eq_false_iff_not, String.not_lt] at hab
  rcases Decidable.em (a < b) with hlt | hnot
  · exact hlt
  · exact absurd (String.le_antisymm hab.1 (String.not_lt.mp hnot)) hab.2

/-- The same names are put in the same order. -/
theorem sorted_congr {names others : List String} (hnames : names.Nodup) (hothers : others.Nodup)
    (h : ∀ name, name ∈ others ↔ name ∈ names) : sorted others = sorted names := by
  have hperm : (sorted others).Perm (sorted names) :=
    (sorted_perm others).trans (((List.perm_ext_iff_of_nodup hothers hnames).mpr h).trans (sorted_perm names).symm)
  refine hperm.eq_of_pairwise ?_ (sorted_pairwise_lt hothers) (sorted_pairwise_lt hnames)
  intro a b _ _ hab hba
  exact absurd (String.lt_trans hab hba) (String.lt_irrefl a)

end Selector

end PreMerge
