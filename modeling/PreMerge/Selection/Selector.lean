import PreMerge.Files.FileTree

/-! What is selected for scanning: files with certain extensions in the source areas of a root, except
below directories of certain names. -/

namespace PreMerge

/-- What to select below a root. -/
structure Selector where
  root : Path
  extensions : List String := [".ts", ".tsx"]
  /-- The directories of the root that are entered. -/
  areas : List String := ["apps", "packages"]
  /-- The names of directories that are entered nowhere. -/
  excluded : List String := ["node_modules", ".next", "dist", "coverage", ".git"]
  /-- How many files are selected at most. -/
  limit : Int := 500

namespace Selector

/-- A name from its last dot on; dots at its start do not count. -/
def extensionOf (name : String) : String :=
  let reversed := name.toList.reverse
  let tail := reversed.takeWhile (· != '.')
  match reversed.dropWhile (· != '.') with
  | '.' :: before => if before.any (· != '.') then String.ofList ('.' :: tail.reverse) else ""
  | _ => ""

/-- Names in their order, the order of their characters. -/
def sorted (names : List String) : List String :=
  names.mergeSort fun left right => !decide (right < left)

/-- The text of a path below the root, the one that is selected. -/
def pathText (names : List String) : String :=
  "/".intercalate names

/-- How a path below the root is spelt. -/
def spelling (selector : Selector) (names : List String) : String :=
  match names with
  | [] => selector.root.text
  | first :: rest => "/".intercalate (FileTree.spell selector.root.text first :: rest)

/-- The files selected from a directory. In the root itself there are none. -/
def chosen (selector : Selector) (names files : List String) : List String :=
  if names = [] then []
  else ((sorted files).filter fun file => selector.extensions.contains (extensionOf file)).map
    fun file => pathText (names ++ [file])

/-- Whether a directory in another one is entered. -/
def enters (selector : Selector) (names : List String) (directory : String) : Bool :=
  !selector.excluded.contains directory && (names != [] || selector.areas.contains directory)

/-- What a directory below the root gives: selected files, and directories to enter. A link other than
the root gives nothing. -/
def visit (selector : Selector) (tree : FileTree) (names : List String) : Except Fault Listing :=
  let path := selector.root.extend names
  let shown := selector.spelling names
  if names ≠ [] ∧ tree.isLink path shown then .ok ⟨[], []⟩
  else match tree.list path shown with
    | .error fault => .error fault
    | .ok listing =>
      .ok ⟨selector.chosen names listing.files, sorted (listing.directories.filter (selector.enters names))⟩

example : extensionOf "a.d.ts" = ".ts" ∧ extensionOf "..ts" = "" ∧ extensionOf "a." = "." := by
  decide +kernel

end Selector

end PreMerge
