import PreMerge.Rule.Search
import PreMerge.Text.Lines

/-! Rules and what breaks them. A rule has a matcher, which it holds against every line or against a whole file.
Line by line, a line with a match is one violation, however many there are in it; in a whole file every
match is one, and has no line. The matchers of the usual rules find constructs. -/

namespace PreMerge

/-- What a rule is held against. -/
inductive Scope
  | line
  | wholeFile
  deriving DecidableEq, Repr

/-- How a scope is called in listings. -/
def Scope.label : Scope → String
  | .line => "line"
  | .wholeFile => "whole-file"

/-- What finds matches in a text, from left to right. -/
abbrev Matcher :=
  List Char → List Span

/-- A named ban on what a matcher finds. -/
structure Rule where
  name : String
  matcher : Matcher
  scope : Scope := .line

/-- One breach of a rule: in a line, given by number and text, or at a match in the whole file. -/
structure Violation where
  file : String
  rule : String
  line : Option Nat
  snippet : String
  deriving DecidableEq, Repr

namespace Rule

/-- The ban on a construct. -/
def against (name : String) (construct : Construct) (scope : Scope := .line) : Rule :=
  ⟨name, construct.spans, scope⟩

/-- The rules every merge is held to, in the order in which they are reported. -/
def standard : List Rule :=
  [.against "'as any'" .castToAny,
   .against "'@ts-ignore' or '@ts-expect-error'" .checkerDirective,
   .against "'console.log'" .consoleMessage,
   .against "Native dialog (window.alert/confirm)" .nativeDialog,
   .against "Empty catch block" .emptyHandler .wholeFile]

/-- One rule is held against whole files. -/
theorem eq_of_mem_standard {rule : Rule} (hrule : rule ∈ standard) (hscope : rule.scope = .wholeFile) :
    rule = .against "Empty catch block" .emptyHandler .wholeFile := by
  simp only [standard, List.mem_cons, List.not_mem_nil, or_false] at hrule
  rcases hrule with rfl | rfl | rfl | rfl | rfl
  · cases hscope
  · cases hscope
  · cases hscope
  · cases hscope
  · rfl

/-- The lines with a match, with their numbers, counted on from `number`. -/
def linesWith (matcher : Matcher) (number : Nat) : List (List Char) → List (Nat × List Char)
  | [] => []
  | line :: lines =>
    if (matcher line).isEmpty then linesWith matcher (number + 1) lines
    else (number, line) :: linesWith matcher (number + 1) lines

/-- The violations of one rule in a content, from the top. -/
def violations (rule : Rule) (content : List Char) (file : String) : List Violation :=
  match rule.scope with
  | .line =>
    (linesWith rule.matcher 1 (Text.physicalLines content)).map fun (number, line) =>
      ⟨file, rule.name, some number, String.ofList line⟩
  | .wholeFile =>
    (rule.matcher content).map fun span =>
      ⟨file, rule.name, none, String.ofList span.text⟩

end Rule

/-- The violations of several rules, rule by rule. -/
def violations (rules : List Rule) (content : List Char) (file : String) : List Violation :=
  rules.flatMap fun rule => rule.violations content file

namespace Violation

/-- The texts that announce a violation, each written by itself. -/
def notices (violation : Violation) : List String :=
  (match violation.line with
    | some number => [toString number ++ ":" ++ violation.snippet ++ "\n"]
    | none => []) ++
    ["  BLOCKED: " ++ violation.rule ++ " in " ++ violation.file ++ "\n"]

/-- The lines that announce a violation. -/
def announcement (violation : Violation) : String :=
  String.join violation.notices

end Violation

end PreMerge
