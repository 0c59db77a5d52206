import PreMerge.Text.Pieces

/-! Paths. Doubled slashes, a slash at the end and parts that are a single dot say nothing and are left
out when a path is read; two dots stay, since the directory before them may be a link. A path that
starts with exactly two slashes is distinguished from one that starts with one slash or more than two. -/

namespace PreMerge

/-- Where a path starts. -/
inductive Anchor
  | here
  | root
  | doubleRoot
  deriving DecidableEq, Repr

/-- A path without its idle parts. -/
structure Path where
  anchor : Anchor
  parts : List String
  deriving DecidableEq, Repr

namespace Path

/-- The anchor of a written path. -/
def anchorOf : List Char → Anchor
  | '/' :: '/' :: '/' :: _ => .root
  | '/' :: '/' :: _ => .doubleRoot
  | '/' :: _ => .root
  | _ => .here

/-- Whether a piece between slashes is a part of the path. -/
def isPart (piece : List Char) : Bool :=
  piece != [] && piece != ['.']

/-- The path a text denotes. -/
def ofString (text : String) : Path :=
  ⟨anchorOf text.toList, ((Text.pieces '/' text.toList).filter isPart).map String.ofList⟩

/-- The slashes an anchor stands for. -/
def slashes : Anchor → String
  | .here => ""
  | .root => "/"
  | .doubleRoot => "//"

/-- The text of a path; the path without parts that starts here is a single dot. -/
def text (path : Path) : String :=
  if path.anchor = .here ∧ path.parts = [] then "."
  else slashes path.anchor ++ "/".intercalate path.parts

/-- The last part, or nothing. -/
def name (path : Path) : String :=
  path.parts.getLast?.getD ""

/-- A path taken from another one; one with a start of its own stays as it is. -/
def append (base path : Path) : Path :=
  if path.anchor = .here then ⟨base.anchor, base.parts ++ path.parts⟩ else path

instance : Append Path where
  append := append

/-- A path with more parts at its end. -/
def extend (path : Path) (parts : List String) : Path :=
  ⟨path.anchor, path.parts ++ parts⟩

/-- Parts, the last one first, with one more, where two dots take back the part before them. At the root they take
back nothing, and elsewhere they stay if there is no such part. -/
def collapseStep (anchor : Anchor) (done : List String) (part : String) : List String :=
  if part ≠ ".." then part :: done
  else match done with
    | [] => if anchor = .here then [part] else []
    | last :: before => if last ≠ ".." then before else if anchor = .here then part :: done else done

/-- The path that a path is if no part of it is a link. -/
def collapsed (path : Path) : Path :=
  ⟨path.anchor, (path.parts.foldl (collapseStep path.anchor) []).reverse⟩

/-- Whether a path is one of some others, if no part of it is a link. -/
def isAmong (paths : List Path) (path : Path) : Bool :=
  paths.contains path.collapsed

/-- Whether a part holds the null character. -/
def hasNull (path : Path) : Bool :=
  path.parts.any fun part => part.toList.contains '\u0000'

theorem extend_nil (path : Path) : path.extend [] = path := by
  simp [extend]

theorem extend_extend (path : Path) (xs ys : List String) :
    (path.extend xs).extend ys = path.extend (xs ++ ys) := by
  simp [extend]

example : (ofString "./a//b/.").text = "a/b" ∧ (ofString "///a/..").text = "/a/.." := by decide +kernel
example : (ofString "//a").text = "//a" ∧ (ofString "").text = "." ∧ (ofString "/").name = "" := by
  decide +kernel
example : (ofString "./a/../b").collapsed = ofString "b" ∧
    (ofString "../../a/..").collapsed = ofString "../.." ∧
    (ofString "/../a").collapsed = ofString "/a" := by decide +kernel

end Path

end PreMerge
