import PreMerge.Host.Signal
import PreMerge.Host.World
import PreMerge.Text.Pieces

/-! Processes: what they do to the world they share with others, given what they have inherited. -/

namespace PreMerge.Host

/-- What a process does. -/
abbrev Process := ReaderT Inherited (StateM World)

namespace Process

/-- Writes a text to a stream, if that can be done. A process that has written what nobody reads writes no more. -/
def write (stream : Nat) (text : Octets) : Process Bool := do
  let world ← get
  if world.halt = some .unread then return true
  match (← read).write world stream text with
  | some later =>
    if later.halt = some .unread && (← read).deaf.contains Signal.pipe then
      set { later with halt := none }
      return false
    else
      set later
      return true
  | none => return false

/-- Writes a message about a problem of a program. -/
def complain (why : Octets) : Process Unit := do
  let _ ← write 2 ((← read).name ++ ": ".toList ++ why ++ ['\n'])

/-- Says where help can be found. -/
def suggestHelp : Process Unit := do
  let _ ← write 2 ("Try '".toList ++ (← read).name ++ " --help' for more information.\n".toList)

/-- Says that printing has failed. -/
def complainOfPrinting : Process Unit := do
  complain ("write error: " ++ (← read).whyNotWritten (← get) 1).toList

/-- Writes what a program prints; its code, `code` unless that fails. -/
def print (text : Octets) (code : Nat := 0) : Process Nat := do
  if ← write 1 text then return code
  else
    complainOfPrinting
    return 1

/-- Everything that comes in. -/
def input : Process (Except String Octets) := do
  match (← read).input (← get) with
  | .ok (text, world) =>
    set world
    return .ok text
  | .error why => return .error why

/-- The next line that comes in, without its end; none if nothing comes in. -/
def inputLine? : Process (Option Octets) := do
  match (← read).stream? 0 with
  | none => return none
  | some number =>
    match (← get).remaining number with
    | .ok (c :: rest) =>
      let line := (c :: rest).takeWhile (· != '\n')
      modify fun world =>
        let later := world.advance number (line.length + 1)
        if line.length ≤ rest.length then later else later.starve number
      return some line
    | _ => return none

end Process

/-- Why a command does not start, or the code it exits with. A code below zero stands for a signal. -/
abbrev Started :=
  Except Refusal Int

/-- A way to start the program at a path; the first of its words is what it is called. -/
abbrev Starter :=
  Octets → List Octets → Process Started

namespace Starter

/-- The variable that lists the directories of programs. -/
def pathsName : Octets :=
  "PATH".toList

/-- Runs a file that is no program as a script, if its text is fit for one. -/
def orScript (starter : Starter) (isFit : Octets → Bool) : Starter := fun path words => do
  match ← starter path words with
  | .error .badFormat =>
    let shell := "/bin/sh".toList
    match (← get).node true path with
    | .ok (.file content _) =>
      if isFit (Octets.ofContent content) then starter shell (shell :: path :: words.tail) else return .error .badFormat
    | _ => return .error .badFormat
  | started => return started

/-- The paths that a name without a slash may stand for. -/
def candidates (paths name : Octets) : List Octets :=
  (Text.pieces ':' paths).map fun directory => if directory = [] then name else directory ++ '/' :: name

/-- Starts the first program at one of the paths. Of the refusals the first counts that is not about a
missing file. -/
def first (starter : Starter) (words : List Octets) : Option Refusal → List Octets → Process Started
  | refusal, [] => return .error (refusal.getD .notFound)
  | refusal, path :: rest => do
    match ← starter path words with
    | .ok code => return .ok code
    | .error found =>
      first starter words (refusal <|> if found.isMissing then none else some found) rest

/-- Starts the program that a name stands for, with words behind it. -/
def byName (starter : Starter) (name : Octets) (words : List Octets) : Process Started := do
  if name.contains '/' then starter name (name :: words)
  else
    let paths := (((← read).environment.find? (·.1 == pathsName)).map (·.2)).getD "/bin:/usr/bin".toList
    first starter (name :: words) none (candidates paths name)

end Starter

end PreMerge.Host
