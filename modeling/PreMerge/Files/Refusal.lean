import PreMerge.Fault

/-! Why the system refuses a path, with the number and the words it gives for that. -/

namespace PreMerge

/-- A reason to refuse a path. -/
inductive Refusal
  | notFound
  | argumentsTooLong
  | badFormat
  | denied
  | taken
  | notDirectory
  | isDirectory
  | nameTooLong
  | notEmpty
  | linkLoop
  deriving DecidableEq, Repr

namespace Refusal

/-- The number of a refusal. -/
def number : Refusal → Int
  | .notFound => 2
  | .argumentsTooLong => 7
  | .badFormat => 8
  | .denied => 13
  | .taken => 17
  | .notDirectory => 20
  | .isDirectory => 21
  | .nameTooLong => 36
  | .notEmpty => 39
  | .linkLoop => 40

/-- The words of a refusal. -/
def wording : Refusal → String
  | .notFound => "No such file or directory"
  | .argumentsTooLong => "Argument list too long"
  | .badFormat => "Exec format error"
  | .denied => "Permission denied"
  | .taken => "File exists"
  | .notDirectory => "Not a directory"
  | .isDirectory => "Is a directory"
  | .nameTooLong => "File name too long"
  | .notEmpty => "Directory not empty"
  | .linkLoop => "Too many levels of symbolic links"

/-- Whether nothing is found at the path. -/
def isMissing : Refusal → Bool
  | .notFound | .notDirectory => true
  | _ => false

/-- The fault of a refusal about a path. -/
def fault (refusal : Refusal) (path : String) : Fault :=
  ⟨.system, [.whole refusal.number, .text refusal.wording, .text path]⟩

end Refusal

/-- No path holds the null character. -/
def Fault.nullInPath : Fault :=
  .ofText .value "embedded null byte"

end PreMerge
