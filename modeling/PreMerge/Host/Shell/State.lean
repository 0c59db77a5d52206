import PreMerge.Host.Integer
import PreMerge.Host.Process
import PreMerge.Host.Value

/-! The state of a shell: its variables, functions, options and streams, and what ends the commands it
runs. -/

namespace PreMerge.Host

/-- A variable, which may be known without a value. -/
structure Variable where
  value : Option Value := none
  exported : Bool := false
  constant : Bool := false
  deriving DecidableEq, Repr

/-- Processes in the background that were started together. -/
structure Job where
  /-- The number that the shell knows it by. -/
  slot : Nat
  /-- The last of its processes, and how many there are. -/
  process : Nat
  size : Nat := 1
  /-- The code it has come to, below zero for a signal; none as long as it goes on. -/
  code : Option Int := none
  /-- Whether somebody has waited for it. -/
  isAwaited : Bool := false
  /-- Whether its end was noticed. -/
  isNoticed : Bool := false
  deriving DecidableEq, Repr

/-- A shell. -/
structure Shell where
  world : World
  streams : List (Nat × Nat) := []
  /-- Where the shell was started. -/
  name : Octets
  parameters : List Octets := []
  bindings : List (Octets × Variable) := []
  functions : List (Octets × Script) := []
  aliases : List (Octets × Octets) := []
  /-- The letters of the options that are set. -/
  flags : List Char := []
  status : Nat := 0
  /-- The code of the last script whose output was put into a command, if there was one in it. -/
  substituted : Option Nat := none
  line : Nat := 1
  /-- The builtin command that runs. -/
  command : Option Octets := none
  /-- How many loops can be left. -/
  loops : Nat := 0
  /-- How many functions run that have called one another. -/
  calls : Nat := 0
  /-- The variables to restore when a function ends. -/
  hidden : List (Octets × Option Variable) := []
  /-- The options to restore when a function ends, if it may change them for itself only. -/
  hiddenFlags : Option (List Char) := none
  /-- What to do on signals; zero stands for the end. -/
  traps : List (Nat × Octets) := []
  /-- The jobs, the last one first. -/
  jobs : List Job := []
  /-- The last process that was started in the background. -/
  lastStarted : Option Nat := none
  /-- The number of the process that runs the shell, of the one that runs the whole script, and of the one that has
  started it. -/
  own : Nat
  main : Nat
  parent : Nat
  /-- The signals that never reach the shell. -/
  deaf : List Nat := []
  /-- How often a loop may go round. -/
  patience : Nat := Host.patience
  /-- The code of the command before, while the shell acts on a signal. -/
  interrupted : Option Nat := none
  /-- The working directory as it was entered. -/
  place : Octets
  /-- Where the reading of options goes on. -/
  nextOption : Nat := 1
  /-- How far options have been read within the word in front. -/
  within : Nat := 0
  mask : Nat := 0o22
  /-- The programs that were found before. -/
  located : List Octets := []
  isInner : Bool := false

/-- Why a command is not carried on. -/
inductive Stop
  | leave (loops : Nat)
  | resume (loops : Nat)
  /-- The function or the script that is read is over, with a code that may have been given. -/
  | back (code : Nat) (isGiven : Bool)
  | exit (code : Nat)
  | mistake
  /-- The process does not come to its end. -/
  | stuck
  /-- The process is over, with a code or, below zero, by a signal. -/
  | gone (code : Int)
  deriving DecidableEq, Repr

/-- What a shell does. -/
abbrev Action := ExceptT Stop (StateM Shell)

namespace Shell

/-- The variables that are there from the start. -/
def initial : List (Octets × Variable) :=
  [("IFS", " \t\n"), ("OPTIND", "1"), ("PS1", "# "), ("PS2", "> "), ("PS4", "+ ")].map
    fun (name, value) => (name.toList, { value := some (.plain value.toList) })

/-- The variable of a name. -/
def lookUp? (shell : Shell) (name : Octets) : Option Variable :=
  (shell.bindings.find? (·.1 == name)).map (·.2)

/-- The value of a variable as a text. -/
def value? (shell : Shell) (name : Octets) : Option Octets :=
  ((shell.lookUp? name).bind (·.value)).map (·.text)

/-- The shell with another variable of a name. -/
def withVariable (shell : Shell) (name : Octets) (new : Variable) : Shell :=
  if shell.bindings.any (·.1 == name) then
    { shell with
      bindings := shell.bindings.map fun entry => if entry.1 == name then (name, new) else entry }
  else { shell with bindings := shell.bindings ++ [(name, new)] }

/-- The shell without the variable of a name. -/
def withoutVariable (shell : Shell) (name : Octets) : Shell :=
  { shell with bindings := shell.bindings.filter (·.1 != name) }

/-- Whether an option is set. -/
def has (shell : Shell) (flag : Char) : Bool :=
  shell.flags.contains flag

/-- The function of a name. -/
def function? (shell : Shell) (name : Octets) : Option Script :=
  (shell.functions.find? (·.1 == name)).map (·.2)

/-- What a program inherits that takes the place of the shell. -/
def inherited (shell : Shell) : Inherited where
  streams := shell.streams
  environment := shell.bindings.filterMap fun (name, found) =>
    if found.exported then found.value.map fun value => (name, value.text) else none
  process := shell.own
  parent := shell.parent
  deaf := shell.deaf ++ (shell.traps.filter (·.2.isEmpty)).map (·.1)
  patience := shell.patience

/-- The characters that fields are split at. -/
def separators (shell : Shell) : Octets :=
  (shell.value? "IFS".toList).getD " \t\n".toList

/-- What joins parameters to one text. -/
def joint (shell : Shell) : Octets :=
  shell.separators.take 1

/-- What a signal makes a process do. -/
inductive Effect
  | ends
  | passes
  | runs (action : Octets)

/-- What a signal makes the shell do. -/
def effect (shell : Shell) (signal : Nat) : Effect :=
  if signal = Signal.kill then .ends
  else if shell.deaf.contains signal then .passes
  else match shell.traps.find? (·.1 == signal) with
    | some (_, action) => if action.isEmpty then .passes else .runs action
    | none => if Signal.harmless.contains signal then .passes else .ends

/-- The shell with a signal for its process, which it has not acted on. -/
def signalled (shell : Shell) (signal : Nat) : Shell :=
  if shell.world.signals.contains (shell.own, signal) then shell
  else { shell with
    world := { shell.world with signals := shell.world.signals ++ [(shell.own, signal)] } }

end Shell

namespace Action

/-- Does what a signal asks for, or sees to it that it will be done. -/
def receive (signal : Nat) : Action Unit := do
  let shell ← get
  match shell.effect signal with
  | .ends => throw (.gone (-signal))
  | .passes => return ()
  | .runs _ => set (shell.signalled signal)

/-- Writes a text to a stream, if that can be done. -/
def write (stream : Nat) (text : Octets) : Action Bool := do
  let shell ← get
  match ({ streams := shell.streams } : Inherited).write shell.world stream text with
  | some world =>
    if world.halt = some .unread then
      set { shell with world := { world with halt := none } }
      receive Signal.pipe
      return false
    else
      set { shell with world }
      return true
  | none => return false

/-- What a process does that takes the place of the shell. -/
def ofProcess {α : Type} (process : Process α) : Action α := do
  let shell ← get
  let (result, world) := (process.run shell.inherited).run shell.world
  set { shell with world }
  return result

/-- Reports a problem. -/
def complain (why : Octets) : Action Unit := do
  let shell ← get
  let command := shell.command.elim [] (· ++ ": ".toList)
  let _ ← write 2 (shell.name ++ ": ".toList ++ Octets.ofNat shell.line ++ ": ".toList ++ command ++ why ++
    ['\n'])

/-- Reports a problem that ends the command. -/
def refuse {α : Type} (why : Octets) : Action α := do
  complain why
  throw .mistake

/-- Ends the process where too much lies in one another: there is no memory for that. -/
def overflow {α : Type} : Action α :=
  throw (.gone (-Signal.fault))

/-- Keeps the code that a command ends with. -/
def finish (code : Nat) : Action Unit :=
  modify fun shell => { shell with status := code }

/-- The number that a word is. -/
def number (word : Octets) : Action Nat := do
  match Integer.whole? Integer.readDecimal word with
  | some n => if 0 ≤ n && n < 0x80000000 then return n.toNat else refuse ("Illegal number: ".toList ++ word)
  | none => refuse ("Illegal number: ".toList ++ word)

/-- Sets a variable to a value. -/
def assignValue (name : Octets) (value : Value) (exported : Bool := false) : Action Unit := do
  let shell ← get
  let old := (shell.lookUp? name).getD {}
  if old.constant then refuse (name ++ ": is read only".toList)
  else
    set (shell.withVariable name
      { old with value := some value, exported := old.exported || exported || shell.has 'a' })
    if name = "OPTIND".toList then
      let index ← number value.text
      modify fun shell => { shell with nextOption := max 1 index, within := 0 }
    if name = "PATH".toList then modify fun shell => { shell with located := [] }

/-- Sets a variable to a text. -/
def assign (name text : Octets) : Action Unit :=
  assignValue name (.plain text)

/-- Remembers where a program was found. -/
def remember (name : Octets) : Action Unit :=
  modify fun shell => { shell with located := shell.located.filter (· != name) ++ [name] }

/-- Sets the parameters, of which no options have been read then. -/
def setParameters (words : List Octets) : Action Unit :=
  modify fun shell => { shell with parameters := words, nextOption := 1, within := 0 }

/-- The name of a variable that a word starts with, up to what would be its value. -/
def nameIn (word : Octets) : Action Octets := do
  let name := word.takeWhile (· != '=')
  if Octets.isName name then return name else refuse (name ++ ": bad variable name".toList)

/-- Sets a variable if its name is one. -/
def assignChecked (word value : Octets) : Action Unit := do
  assign (← nameIn word) value

/-- Hides a variable until the command or the function ends. -/
def hide (name : Octets) : Action Unit :=
  modify fun shell => { shell with hidden := (name, shell.lookUp? name) :: shell.hidden }

/-- Hides the options until the function ends. -/
def hideFlags : Action Unit :=
  modify fun shell => { shell with hiddenFlags := some (shell.hiddenFlags.getD shell.flags) }

/-- Runs an action, after which the variables and options are back that it has hidden. What has no name for a
variable cannot be brought back. -/
def restoring (action : Action Unit) : Action Unit := fun shell =>
  let (result, after) := action { shell with hidden := [], hiddenFlags := none }
  let restored := after.hidden.foldl
    (fun shell (name, old) => old.elim (shell.withoutVariable name) (shell.withVariable name)) after
  let restored := { restored with
    hidden := shell.hidden
    hiddenFlags := shell.hiddenFlags
    flags := after.hiddenFlags.getD after.flags }
  match result, after.hidden.find? fun (name, _) => !Octets.isName name with
  | .ok (), some (name, _) => refuse (name ++ ": bad variable name".toList) restored
  | _, _ => (result, restored)

/-- Runs an action that belongs to a builtin command. -/
def naming {α : Type} (command : Octets) (action : Action α) : Action α := fun shell =>
  let before := shell.command
  let (result, after) := action { shell with command := some command }
  (result, { after with command := before })

end Action

end PreMerge.Host
