import PreMerge.Files.FileTree
import PreMerge.Host.Pipe
import PreMerge.Host.Script
import Std.Data.TreeMap.AdditionalOperations

/-! What the processes of the host share: the files, the files that are open, and the signals that have been sent. A
process knows an open file by the number of one of its streams; several streams may lead to one open file, and
then go on where the others have stopped. Processes run one after another, each up to its end; one that would
never come to it is halted. -/

namespace PreMerge.Host

/-- What an open file leads to. -/
inductive Leads
  | nowhere
  /-- Where there is never room. -/
  | full
  /-- Zeros without an end. -/
  | zeros
  | pipe (pipe : Pipe)
  | place (names : List String)
  /-- A file that was removed, by its number among these. -/
  | removed (number : Nat)

/-- Whether a place is what an open file leads to. -/
def Leads.isPlace (place : List String) : Leads → Bool
  | .place names => names == place
  | _ => false

/-- An open file. -/
structure Opened where
  leads : Leads
  /-- How far it has been read or written. -/
  offset : Nat := 0
  appends : Bool := false
  readable : Bool := true
  writable : Bool := true

/-- Why a process does not come to its end. -/
inductive Halt
  /-- It has written where nobody reads any more, so that a signal ends it. -/
  | unread
  /-- It reads more than is known. -/
  | starved
  | endless
  deriving DecidableEq, Repr

/-- The number of the process that launches commands. -/
def launcherProcess : Nat := 3999

/-- What processes share. -/
structure World where
  tree : FileTree
  /-- The files that were opened, by numbers from zero on. -/
  opened : Std.TreeMap Nat Opened := {}
  /-- The files that were removed while they were open. -/
  removed : Array ByteArray := #[]
  /-- The number of the next process. -/
  nextProcess : Nat := launcherProcess + 2
  /-- The numbers of the processes that are there. -/
  living : List Nat := [launcherProcess + 1, launcherProcess, 1]
  /-- Signals that were sent to processes, with the numbers of these in front. -/
  signals : List (Nat × Nat) := []
  /-- Signals from the background, which arrive when somebody waits. -/
  coming : List (Nat × Nat) := []
  halt : Option Halt := none

/-- How often a loop may go round. -/
def patience : Nat := 0x400000

/-- How often a loop may go round in the background, where it may wait for something that the shell does later. -/
def backgroundPatience : Nat := 0x40000

/-- What a process has of its own: what it is called, the open file of each stream, its environment, its number and
that of the process that has started it, the signals that it does not get, and how often its loops may go round. -/
structure Inherited where
  name : Octets := []
  streams : List (Nat × Nat) := []
  environment : List (Octets × Octets) := []
  process : Nat := launcherProcess + 1
  parent : Nat := launcherProcess
  deaf : List Nat := []
  patience : Nat := Host.patience

namespace Inherited

/-- How much of a process's arguments and environment one text may be. -/
def textBound : Nat := 0x20000

/-- How much a process's arguments and environment may be. -/
def argumentBound : Nat := 0x200000

/-- How much a reference to a text takes. -/
def referenceSize : Nat := 8

/-- Whether words are too long for a program that is started at a path. Every text ends in one more character. -/
def isOverfull (own : Inherited) (path : Octets) (words : List Octets) : Bool :=
  let sizes := words.map (·.length + 1) ++ own.environment.map fun (name, value) => name.length + value.length + 2
  sizes.any (textBound < ·) || argumentBound < path.length + 1 + sizes.foldl (· + ·) 0 + referenceSize * sizes.length

end Inherited

/-- What the host says about a stream that is not open. -/
def badStream : String :=
  "Bad file descriptor"

/-- What the host says where there is no room. -/
def noRoom : String :=
  "No space left on device"

/-- What the host says where nobody reads. -/
def unreadPipe : String :=
  "Broken pipe"

namespace World

/-- The place that a name leads to. A slash at its end asks for a directory. -/
def locate (world : World) (last : Bool) (name : Octets) : Except Refusal (List String) :=
  let text := Octets.toString name
  if name = [] then .error .notFound
  else if name.length < FileTree.pathBound then
    FileTree.arrive world.tree.root last (FileTree.startOf text world.tree.here) (FileTree.stepsOf text)
  else .error .nameTooLong

/-- The node that a name leads to. -/
def node (world : World) (last : Bool) (name : Octets) : Except Refusal Node := do
  let place ← world.locate last name
  (world.tree.root.at? place).elim (.error .notFound) .ok

/-- Whether a name leads to a directory. -/
def isDirectory (world : World) (name : Octets) : Bool :=
  match world.node true name with
  | .ok (.directory _) => true
  | _ => false

/-- Whether a name from the root leads to the working directory without links or dots. -/
def namesHere (world : World) (name : Octets) : Bool :=
  let steps := (FileTree.stepsOf (Octets.toString name)).drop 1
  name.head? == some '/' && !steps.contains "." && !steps.contains ".." &&
    (world.locate true name).toOption == some world.tree.here

/-- A name without its last part, and that part. -/
def splitName (name : Octets) : Octets × Octets :=
  let last := (name.reverse.takeWhile (· != '/')).reverse
  (name.take (name.length - last.length), last)

/-- The place that a name stands for itself, even if there is a link. Only directories have names that end in a
slash or in dots. -/
def lastPlace (world : World) (name : Octets) : Except Refusal (List String) := do
  let (directory, last) := splitName (name.reverse.dropWhile (· == '/')).reverse
  if name = [] then .error .notFound
  else if FileTree.pathBound ≤ name.length then .error .nameTooLong
  else
    let place ← if directory = [] then .ok world.tree.here else world.locate true directory
    match world.tree.root.at? place with
    | some (.directory _) =>
      if name.getLast? = some '/' || last = ['.'] || last = ['.', '.'] then .error .isDirectory
      else if last.length > 255 then .error .nameTooLong
      else .ok (place ++ [Octets.toString last])
    | _ => .error .notDirectory

/-- The place for a new file of a name. A link that leads nowhere is followed, `links` of them at most. -/
def newPlace (world : World) (links : Nat) (name : Octets) : Except Refusal (List String) := do
  let place ← world.lastPlace name
  match links, world.tree.root.at? place with
  | left + 1, some (.link target) =>
    newPlace { world with tree := { world.tree with here := place.dropLast } } left (Octets.ofString target)
  | 0, some (.link _) => .error .linkLoop
  | _, _ => .ok place

/-- The world with a node at a place. -/
def put (world : World) (place : List String) (node : Node) : World :=
  { world with tree := { world.tree with root := world.tree.root.put place node } }

/-- The world in which a file is removed for those who have it open. -/
def detach (world : World) (place : List String) (content : ByteArray) : World :=
  if world.opened.any fun _ file => file.leads.isPlace place then
    { world with
      removed := world.removed.push content
      opened := world.opened.map fun _ file =>
        if file.leads.isPlace place then { file with leads := .removed world.removed.size } else file }
  else world

/-- The world without the node at a place. -/
def erase (world : World) (place : List String) : World :=
  let world := match world.tree.root.at? place with
    | some (.file content _) => world.detach place content
    | _ => world
  { world with tree := { world.tree with root := world.tree.root.erase place } }

/-- The directory of the devices. -/
def deviceDirectory : String := "dev"

/-- The names of the devices. -/
def devices : List String :=
  ["full", "null", "random", "stderr", "stdin", "stdout", "tty", "urandom", "zero"]

/-- Whether a place is that of a device. -/
def isDevice (place : List String) : Bool :=
  place.dropLast == [deviceDirectory] && place.getLast?.any (devices.contains ·)

/-- The world with one more open file, and its number. -/
def add (world : World) (file : Opened) : World × Nat :=
  ({ world with opened := world.opened.insert world.opened.size file }, world.opened.size)

/-- Opens a file that is there. -/
def openAt (world : World) (mode : Mode) (place : List String) (content : ByteArray) (runnable : Bool) :
    World × Nat :=
  if isDevice place then
    let leads := match place.getLast? with
      | some "full" => .full
      | some "random" | some "urandom" | some "zero" => .zeros
      | _ => .nowhere
    world.add { leads }
  else
    let world := match mode with
      | .output | .replace => world.put place (.file .empty runnable)
      | _ => world.put place (.file content runnable)
    world.add
      { leads := .place place
        appends := mode == .append
        readable := mode == .input || mode == .both
        writable := mode != .input }

/-- Opens the file of a name. With `protects`, a file or link that is there is not overwritten. -/
def openFile (world : World) (protects : Bool) (mode : Mode) (name : Octets) :
    Except Refusal (World × Nat) :=
  match world.locate true name with
  | .ok place =>
    match world.tree.root.at? place with
    | some (.file content runnable) =>
      if mode == .output && protects && !isDevice place then .error .taken
      else .ok (world.openAt mode place content runnable)
    | some (.directory _) =>
      if mode == .input then .ok (world.add { leads := .place place, writable := false })
      else .error .isDirectory
    | _ => .error .notFound
  | .error refusal => do
    if mode == .input then .error refusal
    else
      let place ←
        if mode == .output && protects then world.lastPlace name
        else world.newPlace FileTree.linkBudget name
      if (world.tree.root.at? place).isSome then .error .taken
      else .ok (world.openAt mode place .empty false)

/-- How many zeros are looked at where there is no end of them. -/
def zerosLookedAt : Nat := 0x100000

/-- Whether there would be more to read from an open file than is known. -/
def isCut (world : World) (number : Nat) : Bool :=
  match world.opened[number]? with
  | some { leads := .zeros, .. } => true
  | some { leads := .pipe pipe, .. } => pipe.isCut
  | _ => false

/-- The text of a file from an offset on, up to some length if that is bounded. -/
def textFrom (content : ByteArray) (offset : Nat) (bound : Option Nat) : Octets :=
  Octets.ofContent (content.extract offset (bound.elim content.size (offset + ·)))

/-- The text that can still be read from an open file, and why none can. If there is a bound, no more of a file counts
than that. -/
def remaining (world : World) (number : Nat) (bound : Option Nat := none) : Except String Octets :=
  match world.opened[number]? with
  | none => .error badStream
  | some file =>
    if !file.readable then .error badStream
    else match file.leads with
      | .nowhere | .full => .ok []
      | .zeros => .ok (List.replicate zerosLookedAt '\u0000')
      | .pipe pipe => .ok pipe.text
      | .place place =>
        match world.tree.root.at? place with
        | some (.file content _) => .ok (textFrom content file.offset bound)
        | some (.directory _) => .error Refusal.isDirectory.wording
        | _ => .ok []
      | .removed index => .ok (textFrom (world.removed[index]?.getD .empty) file.offset bound)

/-- The world after some more of an open file is read. -/
def advance (world : World) (number count : Nat) : World :=
  { world with
    opened := world.opened.modify number fun file =>
      match file.leads with
      | .pipe pipe => { file with leads := .pipe (pipe.advance count) }
      | _ => { file with offset := file.offset + count } }

/-- The world when there would be more to read from an open file than is known. -/
def cut (world : World) (number : Nat) : World :=
  { world with
    opened := world.opened.modify number fun file =>
      match file.leads with
      | .pipe pipe => { file with leads := .pipe { pipe with isCut := true } }
      | _ => file }

/-- The world in which a process has read all that is known of an open file. -/
def starve (world : World) (number : Nat) : World :=
  if world.isCut number then { world with halt := some .starved } else world

/-- All that can still be read from an open file. -/
def readAll (world : World) (number : Nat) : Except String (Octets × World) := do
  let text ← world.remaining number
  return (text, (world.advance number text.length).starve number)

/-- Bytes with others written over them from an offset on. -/
def overwrite (content : ByteArray) (offset : Nat) (bytes : ByteArray) : ByteArray :=
  content.extract 0 offset ++ ⟨Array.replicate (offset - content.size) 0⟩ ++ bytes ++
    content.extract (offset + bytes.size) content.size

/-- The world after a text is written to an open file, if it can be; it may halt the process. -/
def write (world : World) (number : Nat) (text : Octets) : Option World :=
  match world.opened[number]? with
  | none => none
  | some file =>
    if !file.writable then none
    else match file.leads with
      | .nowhere | .zeros => some world
      | .full => none
      | .pipe pipe =>
        let pipe := pipe.write text
        some { world with
          opened := world.opened.insert number { file with leads := .pipe pipe }
          halt := if pipe.isCut then some .unread else world.halt }
      | .place place =>
        match world.tree.root.at? place with
        | some (.file content runnable) =>
          let offset := if file.appends then content.size else file.offset
          let later := world.put place (.file (overwrite content offset text.toContent) runnable)
          some { later with
            opened := later.opened.insert number { file with offset := offset + text.length } }
        | _ => some world
      | .removed index =>
        let content := world.removed[index]?.getD .empty
        let offset := if file.appends then content.size else file.offset
        some { world with
          removed := world.removed.setIfInBounds index (overwrite content offset text.toContent)
          opened := world.opened.insert number { file with offset := offset + text.length } }

/-- The text that a pipe holds. -/
def pipeText (world : World) (number : Nat) : Octets :=
  match world.opened[number]? with
  | some { leads := .pipe pipe, .. } => pipe.text
  | _ => []

end World

namespace Inherited

/-- The open file of a stream. -/
def stream? (own : Inherited) (stream : Nat) : Option Nat :=
  (own.streams.find? (·.1 == stream)).map (·.2)

/-- The stream that the name of a device stands for. -/
def streamNamed? (name : Octets) : Option Nat :=
  let number := fun (digits : Octets) =>
    if !digits.isEmpty && digits.all Char.isDigit then (String.ofList digits).toNat? else none
  match String.ofList name with
  | "/dev/stdin" => some 0
  | "/dev/stdout" => some 1
  | "/dev/stderr" => some 2
  | _ =>
    ["/dev/fd/", "/proc/self/fd/"].findSome? fun directory =>
      (Octets.after? directory.toList name).bind number

/-- Opens the file of a name, which may stand for what a stream leads to. -/
def openFile (own : Inherited) (world : World) (protects : Bool) (mode : Mode) (name : Octets) :
    Except Refusal (World × Nat) :=
  match streamNamed? name with
  | none => world.openFile protects mode name
  | some stream =>
    match own.stream? stream with
    | none => .error .notFound
    | some number =>
      match world.opened[number]? with
      | some { leads := .place place, .. } =>
        world.openFile protects mode ('/' :: Octets.join ['/'] (place.map Octets.ofString))
      | _ => .ok (world, number)

/-- Why a stream cannot be written to. -/
def whyNotWritten (own : Inherited) (world : World) (stream : Nat) : String :=
  match (own.stream? stream).bind (world.opened[·]?) with
  | some { leads := .full, .. } => noRoom
  | some { leads := .pipe _, .. } => unreadPipe
  | _ => badStream

/-- Everything that comes in on a stream. -/
def input (own : Inherited) (world : World) : Except String (Octets × World) :=
  match own.stream? 0 with
  | some number => world.readAll number
  | none => .error badStream

/-- The world after a text is written to a stream, if it can be. -/
def write (own : Inherited) (world : World) (stream : Nat) (text : Octets) : Option World :=
  if text = [] then some world
  else (own.stream? stream).bind fun number => world.write number text

end Inherited

end PreMerge.Host
