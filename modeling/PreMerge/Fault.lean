import PreMerge.Text.Quoted

/-! Faults: what stops an action, by kind and details, and their wording. The kinds belong to families, by which
the program tells faults apart: one that it does not know itself still has a family, a name and words of its own. -/

namespace PreMerge

/-- One detail of a fault. -/
inductive Detail
  | text (words : String)
  | whole (number : Int)
  | place (path : String)
  deriving DecidableEq, Repr

/-- A detail by itself. -/
def Detail.plain : Detail → String
  | .text words => words
  | .whole number => toString number
  | .place path => path

/-- A detail among others. -/
def Detail.quoted : Detail → String
  | .text words => Text.quoted words
  | .whole number => toString number
  | .place path => "PosixPath(" ++ Text.quoted path ++ ")"

/-- What becomes of a fault that the work of a step gives. -/
inductive Fault.Family
  /-- The step says itself that it failed. -/
  | stepFailed
  /-- The operating system refused. -/
  | system
  /-- The step found nothing to scan. -/
  | nothingToScan
  /-- The step failed in a way that it is not meant to. -/
  | other
  /-- The whole run ends. -/
  | interrupting
  deriving DecidableEq, Repr

/-- The kinds of faults. -/
inductive Fault.Kind
  /-- A step reports that it failed. -/
  | stepFailed
  /-- The operating system refused. -/
  | system
  /-- The selection of files is empty. -/
  | nothingToScan
  | value
  /-- A text holds characters that an encoding lacks. -/
  | encoding
  | runtime
  | key
  | type
  | index
  | overflow
  /-- Anything else. -/
  | general
  /-- The operator pressed the interrupt key. -/
  | interrupted
  /-- The program was told to exit. -/
  | exit
  /-- A kind from outside: its family, its name, and the words and the report that it has for its faults. -/
  | named (family : Fault.Family) (name words report : String)
  deriving DecidableEq, Repr

namespace Fault.Kind

/-- The name under which a kind is reported. -/
def label : Fault.Kind → String
  | .stepFailed => "StepFailed"
  | .system => "OSError"
  | .nothingToScan => "_NothingToScan"
  | .value => "ValueError"
  | .encoding => "UnicodeEncodeError"
  | .runtime => "RuntimeError"
  | .key => "KeyError"
  | .type => "TypeError"
  | .index => "IndexError"
  | .overflow => "OverflowError"
  | .general => "Exception"
  | .interrupted => "KeyboardInterrupt"
  | .exit => "SystemExit"
  | .named _ name _ _ => name

/-- The family that a kind belongs to. -/
def family : Fault.Kind → Fault.Family
  | .stepFailed => .stepFailed
  | .system => .system
  | .nothingToScan => .nothingToScan
  | .interrupted | .exit => .interrupting
  | .named family _ _ _ => family
  | _ => .other

/-- Whether a fault of this kind ends the run instead of failing a step. -/
def interrupts (kind : Fault.Kind) : Bool :=
  kind.family == .interrupting

end Fault.Kind

/-- A fault with what it says. -/
structure Fault where
  kind : Fault.Kind
  details : List Detail
  deriving DecidableEq, Repr

namespace Fault

/-- A fault that says one text. -/
def ofText (kind : Kind) (words : String) : Fault :=
  ⟨kind, [.text words]⟩

/-- Details in a row, as a fault with several shows them. -/
def listed (details : List Detail) : String :=
  "(" ++ ", ".intercalate (details.map Detail.quoted) ++ ")"

/-- The number by which the operating system refused. -/
def number? (fault : Fault) : Option Int :=
  match fault.kind, fault.details with
  | .system, .whole number :: _ :: paths => if paths.length ≤ 3 then some number else none
  | _, _ => none

/-- Whether the system reported that something does not exist. -/
def isMissing (fault : Fault) : Bool :=
  fault.number? == some 2

/-- The numbers of refusals to wait. What comes third with them may be a count of characters. -/
def waitNumbers : List Int :=
  [11, 114, 115]

/-- The paths among the details that follow a number and a reason. A count is none. -/
def pathsAmong (number : Detail) (details : List Detail) : List Detail :=
  match number, details with
  | .whole n, .whole _ :: _ => if n ∈ waitNumbers then [] else details
  | _, _ => details

/-- The refusal of the operating system in words: number, reason, and the paths it is about. -/
def refusalText (number reason : Detail) (paths : List Detail) : String :=
  "[Errno " ++ number.plain ++ "] " ++ reason.plain ++
    match paths with
    | [] => ""
    | [path] | [path, _] => ": " ++ path.quoted
    | path :: _ :: other :: _ => ": " ++ path.quoted ++ " -> " ++ other.quoted

/-- One character, or those from a first to a last place, as a fault about their encoding names them. -/
def unencodableText (text : String) (first stop : Int) : String :=
  if stop = first + 1 then
    "character '" ++ String.ofList ((text.toList[first.toNat]?.map Text.numbered).getD []) ++ "' in position " ++
      toString first
  else "characters in position " ++ toString first ++ "-" ++ toString (stop - 1)

/-- What a fault says. -/
def message (fault : Fault) : String :=
  match fault.kind, fault.details with
  | .named _ _ words _, _ => words
  | _, [] => ""
  | .key, [detail] => detail.quoted
  | _, [detail] => detail.plain
  | .system, number :: reason :: paths =>
    if paths.length ≤ 3 then refusalText number reason (pathsAmong number paths)
    else listed fault.details
  | .encoding, [.text name, .text text, .whole first, .whole stop, .text reason] =>
    "'" ++ name ++ "' codec can't encode " ++ unencodableText text first stop ++ ": " ++ reason
  | _, details => listed details

/-- A fault with its kind, as an unexpected one is reported. -/
def report (fault : Fault) : String :=
  match fault.kind with
  | .named _ _ _ report => report
  | kind => kind.label ++ listed fault.details

/-- The fault that comes of raising one: a count of characters has to be one that a machine can hold. -/
def raised (fault : Fault) : Fault :=
  match fault.kind, fault.details with
  | .system, .whole number :: _ :: .whole count :: more =>
    if number ∈ waitNumbers ∧ more.length ≤ 2 ∧ ¬(-0x8000000000000000 ≤ count ∧ count < 0x8000000000000000) then
      ofText .value "cannot fit 'int' into an index-sized integer"
    else fault
  | _, _ => fault

end Fault

example : (Fault.mk .system [.whole 11, .text "busy", .whole 5]).message = "[Errno 11] busy" ∧
    (Fault.mk .system [.whole 2, .whole 2, .whole 2]).message = "[Errno 2] 2: 2" := by decide +kernel
example : (Fault.mk .system [.whole 13, .text "Permission denied", .text "a'b"]).message =
    "[Errno 13] Permission denied: \"a'b\"" := by decide +kernel
example : (Fault.mk .runtime [.text "x", .whole 1]).report = "RuntimeError('x', 1)" ∧
    (Fault.mk .key [.text "k"]).message = "'k'" ∧ (Fault.mk .value []).report = "ValueError()" := by
  decide +kernel

end PreMerge
