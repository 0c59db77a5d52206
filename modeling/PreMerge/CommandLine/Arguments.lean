import PreMerge.CommandLine.Similar
import PreMerge.Text.Escapes
import PreMerge.Text.Pieces
import PreMerge.Text.Quoted

/-! Arguments of a command: switches, which start with two dashes and have no value, and operands. Two
dashes alone end the switches. -/

namespace PreMerge

/-- A switch that a command knows, and what it is for. -/
structure Switch where
  name : String
  purpose : String
  deriving DecidableEq, Repr

/-- A command: its name, what follows the name, what it does, and the switches it knows. -/
structure Command where
  program : String
  usage : String
  about : List String
  switches : List Switch := []
  /-- How the operands are called, if the command takes any. It takes them only if there is one. -/
  operands : Option String := none
  deriving DecidableEq, Repr

/-- Arguments that a command was given. -/
structure Given where
  switches : List String := []
  operands : List String := []
  deriving DecidableEq, Repr

/-- Why arguments are refused. -/
inductive Misuse
  | noSuchOption (name : String) (similar : List String)
  | takesNoValue (name : String)
  | missing (operands : String)
  | unexpected (operands : List String)
  deriving DecidableEq, Repr

/-- What arguments ask for. -/
inductive Wish
  | help
  | run (given : Given)
  deriving DecidableEq, Repr

namespace Command

/-- The switch that every command knows. -/
def helpSwitch : Switch :=
  ⟨"--help", "Show this message and exit."⟩

/-- All switches of a command. -/
def allSwitches (command : Command) : List Switch :=
  command.switches ++ [helpSwitch]

/-- Whether a command knows a switch. -/
def knows (command : Command) (name : String) : Bool :=
  command.allSwitches.any (·.name == name)

/-- The switches that resemble a word. -/
def similarTo (command : Command) (word : String) : List String :=
  (command.allSwitches.map (·.name)).filter (CommandLine.isSimilar word)

/-- A switch as it is written: its name, and a value if there is an equals sign. -/
def named (word : String) : String × Bool :=
  (String.ofList (word.toList.takeWhile (· != '=')), word.toList.contains '=')

/-- The name of a switch that starts with two dashes. -/
def switch (command : Command) (word : String) : Except Misuse String :=
  let (name, hasValue) := named word
  if !command.knows name then .error (.noSuchOption name (command.similarTo name))
  else if hasValue then .error (.takesNoValue name)
  else .ok name

/-- The arguments sorted into switches and operands. -/
def sort (command : Command) : List String → Except Misuse Given
  | [] => .ok {}
  | word :: rest =>
    if word = "--" then .ok { operands := rest }
    else match word.toList with
      | '-' :: '-' :: _ => do
        let name ← command.switch word
        let given ← command.sort rest
        return { given with switches := name :: given.switches }
      | '-' :: letter :: _ => .error (.noSuchOption (String.ofList ['-', letter]) [])
      | _ => do
        let given ← command.sort rest
        return { given with operands := word :: given.operands }

/-- What arguments ask for. -/
def read (command : Command) (arguments : List String) : Except Misuse Wish :=
  match command.sort arguments with
  | .error misuse => .error misuse
  | .ok given =>
    if given.switches.contains helpSwitch.name then .ok .help
    else match command.operands, given.operands with
      | some name, [] => .error (.missing name)
      | none, operand :: more => .error (.unexpected (operand :: more))
      | _, _ => .ok (.run given)

/-- The line that tells how a command is used. -/
def usageLine (command : Command) : String :=
  "Usage: " ++ command.program ++ " " ++ command.usage ++ "\n"

/-- The line about a switch, with its purpose at a column. -/
def switchLine (column : Nat) (switch : Switch) : String :=
  "  " ++ switch.name ++ String.ofList (List.replicate (column - switch.name.length) ' ') ++
    switch.purpose ++ "\n"

/-- The help on a command. -/
def help (command : Command) : String :=
  let widest := (command.allSwitches.map (·.name.length)).foldl max 0
  command.usageLine ++ "\n" ++ String.join (command.about.map fun line => "  " ++ line ++ "\n") ++
    "\nOptions:\n" ++ String.join (command.allSwitches.map (switchLine (widest + 2)))

end Command

namespace Misuse

/-- A question for what was meant. -/
def question : List String → String
  | [] => ""
  | [name] => " Did you mean " ++ Text.quoted name ++ "?"
  | names =>
    " (Did you mean one of: " ++
      ", ".intercalate ((names.mergeSort fun left right => !decide (right < left)).map Text.quoted) ++ "?)"

/-- What is wrong. -/
def message : Misuse → String
  | .noSuchOption name similar => "No such option " ++ Text.quoted name ++ "." ++ question similar
  | .takesNoValue name => "Option " ++ Text.quoted name ++ " does not take a value."
  | .missing operands => "Missing argument " ++ Text.quoted operands ++ "."
  | .unexpected operands =>
    (match operands with
      | [_] => "Got unexpected extra argument ("
      | _ => "Got unexpected extra arguments (") ++ " ".intercalate operands ++ ")"

/-- What a command writes about arguments that it refuses, without the escape sequences that they bring. -/
def complaint (command : Command) (misuse : Misuse) : String :=
  let error := Text.withoutEscapes ("Error: " ++ misuse.message ++ "\n")
  match misuse with
  | .takesNoValue _ => error
  | _ => command.usageLine ++ "Try '" ++ command.program ++ " --help' for help.\n\n" ++ error

end Misuse

end PreMerge
