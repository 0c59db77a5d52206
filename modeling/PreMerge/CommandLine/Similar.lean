/-! How alike two words are: the length of their longest common block, with the blocks that the parts
before it and the parts behind it have in common. -/

namespace PreMerge.CommandLine

/-- How many characters two words have in common at their start. -/
def commonStart : List Char → List Char → Nat
  | x :: xs, y :: ys => if x = y then commonStart xs ys + 1 else 0
  | _, _ => 0

/-- A block of characters that two words have in common, by where it starts in each. -/
structure Block where
  left : Nat
  right : Nat
  size : Nat
  deriving DecidableEq, Repr

/-- The larger one of two blocks, the first one if they are of the same size. -/
def Block.larger (first second : Block) : Block :=
  if first.size < second.size then second else first

/-- The common blocks of two words, one for each pair of places to start. -/
def blocks (xs ys : List Char) : List Block :=
  (List.range xs.length).flatMap fun i =>
    (List.range ys.length).map fun j => ⟨i, j, commonStart (xs.drop i) (ys.drop j)⟩

/-- The longest common block; of several, the one that starts first on the left, then on the right. -/
def longestBlock (xs ys : List Char) : Block :=
  (blocks xs ys).foldl Block.larger ⟨0, 0, 0⟩

/-- How many characters two words have in common, block by block. -/
def common (xs ys : List Char) : Nat :=
  match longestBlock xs ys with
  | ⟨i, j, size⟩ =>
    if _inside : 0 < size ∧ i < xs.length then
      common (xs.take i) (ys.take j) + size + common (xs.drop (i + size)) (ys.drop (j + size))
    else 0
  termination_by xs.length
  decreasing_by all_goals simp only [List.length_take, List.length_drop]; omega

/-- Whether so many characters are at least six tenths of those of two words. -/
def isMost (word other : String) (count : Nat) : Bool :=
  3 * (word.length + other.length) ≤ 10 * count

/-- Whether two words have at least six tenths of their characters in common, which they cannot if one is much longer
than the other. -/
def isSimilar (word other : String) : Bool :=
  isMost word other (min word.length other.length) && isMost word other (common other.toList word.toList)

example : isSimilar "--skip_build" "--skip-build" = true ∧ isSimilar "--fast" "--help" = false ∧
    isSimilar "--hepl" "--help" = true := by
  cbv

end PreMerge.CommandLine
