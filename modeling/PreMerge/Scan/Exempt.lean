import PreMerge.Files.Path

/-! Files that no rule is held against: tests, known by a mark in their name, and the tooling of the
repository, known by the directory it lies in. -/

namespace PreMerge.Scan

/-- Whether a text holds a part. -/
def holds (part : List Char) : List Char → Bool
  | [] => part.isEmpty
  | c :: rest => part.isPrefixOf (c :: rest) || holds part rest

/-- The marks in the names of tests. -/
def testMarks : List String :=
  [".test.", ".spec.", "__tests__"]

/-- Whether a name marks a test. -/
def namesTest (name : String) : Bool :=
  testMarks.any fun mark => holds mark.toList name.toList

/-- Whether the text of a path goes through a directory of tooling. -/
def inTooling (text : List Char) : Bool :=
  "scripts/".toList.isPrefixOf text || holds "/scripts/".toList text

/-- Whether a path is exempt. -/
def isExempt (path : Path) : Bool :=
  namesTest path.name || inTooling path.text.toList

example : isExempt (.ofString "a/scripts") = false ∧ isExempt (.ofString "./scripts//a.ts") = true := by
  decide +kernel
example : isExempt (.ofString "a.test.d/b.ts") = false ∧ isExempt (.ofString "b/x.spec.ts/") = true := by
  decide +kernel

end PreMerge.Scan
