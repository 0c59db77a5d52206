import PreMerge.Files.FileTree
import PreMerge.Log
import PreMerge.Rule.Violation
import PreMerge.Scan.Exempt
import PreMerge.Text.Encoding
import PreMerge.Text.Utf8

/-! The scan of a list of files. Each file is exempt, unreadable or read. A path that no file can have stops the
scan, and so do a record that cannot be written and an output that refuses what is shown. -/

namespace PreMerge

/-- The conditions of a scan: why no record can be written, if so, and the encodings of file names and of the output. -/
structure Scan.Conditions where
  stamp : Option Fault := none
  naming : Encoding := {}
  output : Encoding := {}

/-- What became of one file. -/
inductive Scan.Verdict
  | exempt
  | unreadable (why : Fault)
  | read (violations : List Violation)
  deriving DecidableEq, Repr

/-- Whether a verdict leaves a record. -/
def Scan.Verdict.isRecorded : Scan.Verdict → Bool
  | .exempt | .unreadable _ => true
  | .read _ => false

/-- The sums over the files of a scan. -/
@[ext]
structure Findings where
  candidates : Nat := 0
  scanned : Nat := 0
  skipped : Nat := 0
  unreadable : Nat := 0
  violations : List Violation := []
  /-- What was shown of the violations, one after the other. -/
  shown : List String := []
  log : List Record := []
  deriving DecidableEq, Repr

namespace Findings

/-- Whether no rule is broken. -/
def passed (findings : Findings) : Bool :=
  findings.violations.isEmpty

/-- The text that was shown while scanning. -/
def echo (findings : Findings) : String :=
  String.join findings.shown

/-- The record of a file that no rule is held against. -/
def skipping (file why : String) : Record :=
  ⟨.debug, .engine, "Skipping " ++ file ++ ": " ++ why⟩

/-- Findings with those of one file more. -/
def add (findings : Findings) (file : String) (verdict : Scan.Verdict) : Findings :=
  let counted := { findings with candidates := findings.candidates + 1 }
  match verdict with
  | .exempt =>
    { counted with
      skipped := findings.skipped + 1
      log := findings.log ++ [skipping file "test or tooling file"] }
  | .unreadable why =>
    { counted with
      unreadable := findings.unreadable + 1
      log := findings.log ++ [skipping file why.message] }
  | .read violations =>
    { counted with
      scanned := findings.scanned + 1
      violations := findings.violations ++ violations
      shown := findings.shown ++ violations.map Violation.announcement }

/-- Findings with texts that were shown before the output refused the next one. -/
def cutShort (findings : Findings) (texts : List String) : Findings :=
  { findings with shown := findings.shown ++ texts }

end Findings

namespace Scan

/-- Where a file is read, given the directory that relative paths start from. -/
def placeOf (base : Option Path) (file : String) : Path :=
  match base with
  | some directory => directory ++ Path.ofString file
  | none => Path.ofString file

/-- The bytes of the file at a path, whose text has to be a name that can be asked for. -/
def contentOf (tree : FileTree) (naming : Encoding) (place : Path) : Except Fault (List UInt8) :=
  match naming.fault? place.text with
  | some fault => .error fault
  | none => tree.read place

/-- What becomes of one file. -/
def examine (rules : List Rule) (tree : FileTree) (base : Option Path) (file : String) (naming : Encoding := {}) :
    Except Fault Verdict :=
  if isExempt (.ofString file) then .ok .exempt
  else match contentOf tree naming (placeOf base file) with
    | .ok content => .ok (.read (PreMerge.violations rules (Text.Utf8.decode content) file))
    | .error fault => if fault.kind.family = .system then .ok (.unreadable fault) else .error fault

/-- What becomes of one file, where `stamp` is why no record can be written. -/
def settle (stamp : Option Fault) (verdict : Verdict) : Except Fault Verdict :=
  match stamp with
  | some fault => if verdict.isRecorded then .error fault else .ok verdict
  | none => .ok verdict

/-- The texts that a verdict shows. -/
def Verdict.notices : Verdict → List String
  | .exempt | .unreadable _ => []
  | .read violations => violations.flatMap Violation.notices

/-- The findings in files, added to those so far, and the fault that stops the scan. -/
def run (rules : List Rule) (tree : FileTree) (base : Option Path) (conditions : Conditions)
    (sofar : Findings) : List String → Findings × Option Fault
  | [] => (sofar, none)
  | file :: rest =>
    match (examine rules tree base file conditions.naming).bind (settle conditions.stamp) with
    | .error fault => (sofar, some fault)
    | .ok verdict =>
      match conditions.output.write verdict.notices with
      | (texts, some fault) => (sofar.cutShort texts, some fault)
      | (_, none) => run rules tree base conditions (sofar.add file verdict) rest

end Scan

/-- The scan of files, with the fault that stops it. If no record can be written, the first file that would leave one
stops the scan. -/
def scan (rules : List Rule) (tree : FileTree) (base : Option Path) (files : List String)
    (conditions : Scan.Conditions := {}) : Findings × Option Fault :=
  Scan.run rules tree base conditions {} files

example : (scan Rule.standard ⟨.directory [("a.ts", .ofBytes ("x as any".toUTF8.toList))], [], Path.isAmong []⟩ none
    ["scripts/a.ts", "a.ts"]).1.echo = "1:x as any\n  BLOCKED: 'as any' in a.ts\n" := by
  decide +kernel

/-- As long as records can be written, a verdict stands. -/
theorem Scan.bind_settle_none (result : Except Fault Verdict) : result.bind (settle none) = result := by
  cases result <;> rfl

end PreMerge
