import PreMerge.Files.Path
import PreMerge.Number.Decimal
import PreMerge.Text.Quoted

/-! The settings of the program, taken from its environment. -/

namespace PreMerge

/-- The variables of the environment that the program reads. -/
structure Environment where
  root : Option String := none
  verbose : Option String := none
  timeout : Option String := none
  deriving DecidableEq, Repr

/-- The settings of a run. -/
structure Settings where
  root : Path
  verbose : Bool
  /-- The seconds a command may take; without it commands run to their end. -/
  timeout : Option Binary64
  deriving DecidableEq, Repr

namespace Settings

/-- The words that switch something on. -/
def affirmative : List String :=
  ["1", "true", "yes", "on"]

/-- Whether a text switches something on. Case does not count; no character outside the Latin alphabet
has a small form among the letters of these words. -/
def isAffirmative (text : String) : Bool :=
  affirmative.contains (String.ofList ((Text.trim Text.isBlank text.toList).map Char.toLower))

/-- The value of a variable, if it is set to something. -/
def value? (setting : Option String) : Option String :=
  setting.filter (· != "")

/-- The timeout that a text denotes. -/
def timeoutOf (text : String) : Except Fault Binary64 :=
  match Decimal.read? text with
  | none => .error (.ofText .value ("could not convert string to float: " ++ Text.quoted text))
  | some seconds =>
    if seconds.notPositive then
      .error (.ofText .value ("MERGEGATE_COMMAND_TIMEOUT must be positive, got " ++ text))
    else .ok seconds

/-- The settings in an environment, for a program that works in the directory `here`. -/
def load (here : Path) (environment : Environment) : Except Fault Settings :=
  let root := (value? environment.root).elim here Path.ofString
  let verbose := environment.verbose.elim false isAffirmative
  match value? environment.timeout with
  | none => .ok ⟨root, verbose, none⟩
  | some text => (timeoutOf text).map fun seconds => ⟨root, verbose, some seconds⟩

example : isAffirmative " TRUE\u2003" = true ∧ isAffirmative "y" = false := by decide +kernel

end Settings

end PreMerge
