import PreMerge.Host.Shell.Jobs

/-! How scripts are run. Everything that runs another script does so through `Again`, the way to run the parts
of the script that is run now. -/

namespace PreMerge.Host

/-- How a script is run. -/
structure Manner where
  /-- Whether somebody tests how it ends, so that it may fail without further ado. -/
  tested : Bool := false
  /-- Whether the process ends with it, so that the last program takes the place of the shell. -/
  isLast : Bool := false

/-- How to run other scripts in the midst of one, which lie deeper by one step and by some more. -/
structure Again where
  deeper (more : Nat) (manner : Manner) (script : Script) : Action Unit
  /-- Runs the text of a script. -/
  text (more : Nat) (tested : Bool) (text : Octets) : Action Unit

namespace Again

/-- Runs a part of the script that is run now. -/
def script (again : Again) : Manner → Script → Action Unit :=
  again.deeper 0

end Again

namespace Evaluation

/-! Inner shells. -/

/-- What a shell does when it has come to its end, and the code it exits with. A signal is a code below
zero. -/
def conclude (again : Again) (result : Except Stop Unit) : StateM Shell Int := do
  match result with
  | .error (.gone code) => return code
  | .error .stuck => return 0
  | _ =>
    let shell ← get
    let code : Nat := match result with
      | .error (.back code _) | .error (.exit code) => code
      | .error .mistake => 2
      | .error _ => 0
      | .ok () => shell.status
    match shell.traps.find? (·.1 == 0) with
    | none => return code
    | some (_, action) =>
      set { shell with
        traps := shell.traps.filter (·.1 != 0)
        status := code
        interrupted := some code
        loops := 0
        calls := 0 }
      match ← (again.text 0 false action).run with
      | .error (.exit code) => return code
      | .error (.gone code) => return code
      | .error .mistake => return 2
      | _ => return code

/-- The code that others see of a process that exits with a code. -/
def ofExit (code : Int) : Int :=
  if code < 0 then code else code % 256

/-- Runs an action in a shell of its own, which shares the world with this one; the number of its process, and its
code. -/
def apart (again : Again) (inBackground : Bool) (action : Action Unit) : Action (Nat × Int) := do
  let number ← Action.fork
  let shell ← get
  let inner := { shell with
    isInner := true
    traps := shell.traps.filter fun (_, action) => action.isEmpty
    substituted := none
    jobs := []
    own := number
    parent := shell.own
    deaf := if inBackground then Signal.ofTerminal ++ shell.deaf else shell.deaf
    patience := if inBackground then backgroundPatience else shell.patience }
  let (code, after) := (do conclude again (← action.run) : StateM Shell Int).run inner
  let here := shell.world.tree.here
  set { shell with world := { after.world with tree := { after.world.tree with here } } }
  return (number, ofExit code)

/-- Runs an action in a shell of its own and waits for it; its code. -/
def inside (again : Again) (action : Action Unit) : Action Nat := do
  let (number, code) ← apart again false action
  Action.bury number
  Action.resume
  Action.report code
  return seen code

/-- The shell with an open file on a stream. -/
def connect (stream number : Nat) : Action Unit :=
  modify fun shell =>
    { shell with streams := (stream, number) :: shell.streams.filter (·.1 != stream) }

/-- Opens one more file. -/
def addFile (file : Opened) : Action Nat := do
  let shell ← get
  let (world, number) := shell.world.add file
  set { shell with world }
  return number

/-- Runs an action, after which some streams are those from before. -/
def keepingStreams (isKept : Nat → Bool) (action : Action Unit) : Action Unit := fun shell =>
  let (result, after) := action shell
  let streams := shell.streams.filter (isKept ·.1) ++ after.streams.filter (!isKept ·.1)
  (result, { after with streams })

/-- What a script prints. Where there is nothing to run, nothing is said of how it ends. -/
def substitute (again : Again) (script : Script) : Action Octets := do
  if script matches .nothing then return []
  let number ← addFile { leads := .pipe {} }
  let code ← inside again do
    connect 1 number
    again.script { isLast := true } script
  modify fun shell => { shell with substituted := some code }
  return (← get).world.pipeText number

/-! Redirections. -/

/-- A redirection with its word expanded, unless that is a document. -/
inductive Ready
  | file (mode : Mode) (name : Octets)
  | copy (stream : Nat)
  | close
  | document (text : Word)

/-- Expands the word of a redirection, unless it is a document. -/
def ready (again : Again) : Target → Action Ready
  | .file mode word => return .file mode (← Expansion.textOf (substitute again) false word)
  | .document text => return .document text
  | .stream word => do
    match ← Expansion.textOf (substitute again) false word with
    | ['-'] => return .close
    | [c] => if c.isDigit then return .copy (c.toNat - '0'.toNat) else Action.refuse wrong
    | _ => Action.refuse wrong
where
  /-- What is said about a word that is no stream. -/
  wrong : Octets := "Syntax error: Bad fd number".toList

/-- Expands the words of redirections. -/
def readyAll (again : Again) : List Redirect → Action (List (Nat × Ready))
  | [] => return []
  | .mk stream target :: rest => do
    let first ← ready again target
    return (stream, first) :: (← readyAll again rest)

/-- The result of an action unless there is a mistake in it. -/
def unlessMistaken {α : Type} (action : Action α) : Action (Option α) := fun shell =>
  match action shell with
  | (.ok result, after) => (.ok (some result), after)
  | (.error .mistake, after) => (.ok none, after)
  | (.error why, after) => (.error why, after)

/-- Redirects a stream, if that can be done. -/
def redirect (again : Again) (stream : Nat) : Ready → Action Bool
  | .close => do
    modify fun shell => { shell with streams := shell.streams.filter (·.1 != stream) }
    return true
  | .copy source => do
    if source = stream then return true
    else
      match (← get).inherited.stream? source with
      | some number =>
        connect stream number
        return true
      | none =>
        Action.complain (Octets.ofNat source ++ ": ".toList ++ badStream.toList)
        return false
  | .document text => do
    match ← unlessMistaken (Expansion.textOf (substitute again) false text) with
    | some text =>
      let number ← addFile { leads := .pipe (.ofText text), writable := false }
      connect stream number
      return true
    | none => return false
  | .file mode name => do
    let shell ← get
    match shell.inherited.openFile shell.world (shell.has 'C') mode name with
    | .ok (world, number) =>
      set { shell with world }
      connect stream number
      return true
    | .error refusal =>
      let opens := mode == .input || mode == .output && shell.has 'C' && shell.world.isDirectory name
      let verb := if opens then "open " else "create "
      let why := if !refusal.isMissing then refusal.wording
        else if mode == .input then "No such file" else "Directory nonexistent"
      Action.complain ("cannot ".toList ++ verb.toList ++ name ++ ": ".toList ++ why.toList)
      return false

/-- Whether one of the redirections is of a stream. -/
def isChanged (redirects : List Redirect) (stream : Nat) : Bool :=
  redirects.any fun (.mk changed _) => changed == stream

/-- Redirects streams, until one cannot be. -/
def redirectAll (again : Again) : List (Nat × Ready) → Action Bool
  | [] => return true
  | (stream, target) :: rest => do
    if ← redirect again stream target then redirectAll again rest else return false

/-! Commands. -/

/-- Ends the shell if a command has failed that nobody tests. -/
def check (tested : Bool) : Action Unit := do
  let shell ← get
  if !tested && shell.has 'e' && shell.status != 0 then throw (.exit shell.status)

/-- Runs an action as the body of a function or of a script that is read, from which one can come back. -/
def returning (action : Action Unit) : Action Unit := fun shell =>
  match action shell with
  | (.error (.back code _), after) => (.ok (), { after with status := code })
  | other => other

/-- How much deeper than a part of a script the body of a function lies. -/
def callDepth : Nat := 6

/-- How much deeper than a part of a script a text lies that is run. -/
def textDepth : Nat := 5

/-- How much deeper than a part of a script the text of a file lies that is run. -/
def fileDepth : Nat := 9

/-- How many functions can call one another. -/
def callBound : Nat := 1000

/-- Calls a function. -/
def call (again : Again) (tested : Bool) (body : Script) (words : List Octets) : Action Unit := do
  if callBound ≤ (← get).calls then
    Action.refuse ("Maximum function recursion depth (" ++ toString callBound ++ ") reached").toList
  let before ← get
  set { before with
    parameters := words, loops := 0, calls := before.calls + 1, nextOption := 1, within := 0 }
  leaving before (Action.restoring (returning (again.deeper callDepth { tested } body)))
where
  /-- Runs an action, after which the parameters are those from before. -/
  leaving (before : Shell) (action : Action Unit) : Action Unit := fun shell =>
    let (result, after) := action shell
    (result, { after with
      parameters := before.parameters
      loops := before.loops
      calls := before.calls
      nextOption := before.nextOption
      within := before.within })

/-- Starts the first program at one of the paths. Of the refusals the last counts that is not about a missing file. -/
def startFirst (starter : Starter) (words : List Octets) : Refusal → List Octets → Process Started
  | refusal, [] => return .error refusal
  | refusal, path :: rest => do
    match ← starter path words with
    | .ok code => return .ok code
    | .error found => startFirst starter words (if found.isMissing then refusal else found) rest

/-- Starts the first program at one of the paths, in the place of the shell or as a process of its own; its code, or
why none does start. A file that is no program is run as a script if it is readable. -/
def start (starter : Starter) (replaces : Bool) (paths : List Octets) (name : Octets) (words : List Octets) :
    Action Started := do
  let here := (← get).world.tree.here
  let shell ← get
  let number ← if replaces then pure shell.own else Action.fork
  let parent := if replaces then shell.parent else shell.own
  let started ← Action.ofProcess <|
    withReader (fun own => { own with process := number, parent })
      (startFirst (starter.orScript Octets.isReadable) (name :: words) .notFound paths)
  modify fun shell =>
    { shell with world := { shell.world with tree := { shell.world.tree with here } } }
  if !replaces then Action.bury number
  return started

/-- Runs a program at one of the paths; its code, or another code if it cannot be run. -/
def executeAt (starter : Starter) (replaces : Bool) (paths : List Octets) (name : Octets) (words : List Octets) :
    Action (Except Nat Int) := do
  match ← start starter replaces paths name words with
  | .ok code => return .ok code
  | .error refusal =>
    Action.complain (name ++ ": ".toList ++ Builtin.wording refusal)
    return .error <| if refusal.isMissing || refusal == .linkLoop || refusal == .nameTooLong then 127 else 126

/-- Runs a program; its code, or another code if it cannot be run. -/
def execute (starter : Starter) (replaces : Bool) (name : Octets) (words : List Octets) :
    Action (Except Nat Int) := do
  if name.contains '/' then executeAt starter replaces [name] name words
  else
    let shell ← get
    let paths := Builtin.paths shell
    match Builtin.find? shell paths name with
    | none =>
      Action.complain (name ++ ": ".toList ++ Builtin.wording (Builtin.whyMissing shell paths name))
      return .error 127
    | some path =>
      Action.remember name
      executeAt starter replaces ((Starter.candidates paths name).dropWhile (· != path)) name words

/-- Lets a program that has ended in the place of the shell end it. -/
def giveWay {α : Type} : Except Nat Int → Action α
  | .ok code => do
    if (← get).world.halt.isSome then throw .stuck else throw (.gone code)
  | .error code => throw (.exit code)

/-- Runs an action that ends the function with another code unless it gives one. -/
def unlessGiven (code : Nat) (action : Action Unit) : Action Unit := fun shell =>
  match action shell with
  | (.error (.back _ false), after) => (.error (.back code false), after)
  | other => other

/-- Does what signals ask for that have come. -/
def attend (again : Again) : Action Unit := do
  let shell ← get
  if shell.world.signals.any (·.1 == shell.own) then
    let (here, others) := shell.world.signals.partition (·.1 == shell.own)
    if let some (_, signal) := here.find? fun (_, signal) => shell.effect signal matches .ends then
      throw (.gone (-signal))
    set { shell with world := { shell.world with signals := others } }
    for signal in List.range Signal.names.length do
      if here.any (·.2 == signal) then
        let shell ← get
        if let .runs action := shell.effect signal then
          set { shell with interrupted := some shell.status }
          unlessGiven shell.status (again.text textDepth false action)
          modify fun after => { after with interrupted := shell.interrupted, status := shell.status }

/-- Reads a script from a file and runs it, whoever tests how the command ends. -/
def source (again : Again) (words : List Octets) : Action Unit := do
  let (_, words) ← Builtin.options "" words
  match words with
  | [] => Action.finish 0
  | name :: _ =>
    let shell ← get
    let found := if name.contains '/' then some name
      else (Starter.candidates (Builtin.paths shell) name).find? fun path =>
        shell.world.node true path matches .ok (.file _ _)
    match found with
    | none => Action.refuse (name ++ ": not found".toList)
    | some path =>
      match shell.inherited.openFile shell.world false .input path with
      | .error refusal =>
        let why := if refusal.isMissing then "No such file" else refusal.wording
        Action.refuse ("cannot open ".toList ++ path ++ ": ".toList ++ why.toList)
      | .ok (world, number) =>
        let text := Octets.withoutNulls ((world.remaining number).toOption.getD [])
        returning (Action.naming path (again.text fileDepth false text))

/-- Runs a builtin command. -/
def builtin (again : Again) (starter : Starter) (tested : Bool) (name : String) (words : List Octets) :
    Action Unit := do
  match name with
  | "eval" =>
    if words.isEmpty then Action.finish 0 else again.text textDepth tested (Octets.join [' '] words)
  | "." => source again words
  | "exec" =>
    match words with
    | [] => Action.finish 0
    | program :: words =>
      let shell ← get
      let paths := if program.contains '/' then [program]
        else Starter.candidates (Builtin.paths shell) program
      giveWay (← executeAt starter true paths program words)
  | "command" =>
    let (given, words) ← Builtin.options "pvV" words
    match words with
    | [] => Action.finish 0
    | name :: _ => Action.finish (← Builtin.describe (given.any (·.1 == 'V')) name)
  | _ =>
    if name ∈ Builtin.forProcesses then Action.finish (← Builtin.runForProcesses name words)
    else match Builtin.run? name words with
      | some action => Action.finish (← action)
      | none => Action.finish 127

/-- Runs a builtin command, whose mistakes end the shell only if it is special. -/
def guarded (isSpecial : Bool) (action : Action Unit) : Action Unit := fun shell =>
  match action shell with
  | (.error .mistake, after) =>
    if isSpecial then (.error .mistake, after) else (.ok (), { after with status := 2 })
  | other => other

/-- What the words of a command ask for. -/
inductive Task
  | nothing
  | function (body : Script)
  | builtin (name : String)
  | program

/-- A command by its words. -/
structure Command where
  task : Task
  words : List Octets
  /-- Whether mistakes end the shell, and assignments stay. -/
  isSpecial : Bool := false

namespace Command

/-- The words that follow `command` if these ask for no more than to run them. -/
def plain? : List Octets → Option (List Octets)
  | ['-', '-'] :: rest => if rest.isEmpty then none else some rest
  | ['-', 'p'] :: rest => plain? rest
  | word :: rest => if word.head? == some '-' && word.length != 1 then none else some (word :: rest)
  | [] => none

/-- The command of words. -/
def ofWords (shell : Shell) (mayCall isFirst : Bool) : Nat → List Octets → Command
  | 0, words => ⟨.nothing, words, false⟩
  | _ + 1, [] => ⟨.nothing, [], false⟩
  | fuel + 1, name :: rest =>
    let text := String.ofList name
    match if mayCall then shell.function? name else none with
    | some body => ⟨.function body, name :: rest, false⟩
    | none =>
      if text = "command" then
        match plain? rest with
        | some words => ofWords shell false false fuel words
        | none => ⟨.builtin text, name :: rest, false⟩
      else if text ∈ Script.special then ⟨.builtin text, name :: rest, isFirst⟩
      else if text ∈ Builtin.regular then ⟨.builtin text, name :: rest, false⟩
      else ⟨.program, name :: rest, false⟩

end Command

/-- The command that words stand for in a shell. -/
def commandOf (words : List Octets) : Action Command := do
  return Command.ofWords (← get) true true (words.length + 1) words

/-- Whether the first words of a command show that its other words assign values, if they decide this. -/
def assigns? (words : List Octets) : Action (Option Bool) := do
  match (← commandOf words).task with
  | .nothing | .builtin "command" => return none
  | .builtin name => return some (name ∈ Builtin.assigning)
  | _ => return some false

/-- The fields of the words of a command, behind those from `before`, the last of which comes first. -/
def wordsFrom (again : Again) (assigns : Option Bool) (before : List Octets) : List Word → Action (List Octets)
  | [] => return before.reverse
  | word :: rest => do
    let isValue := word.assignment?.isSome
    let assigns ← if isValue && assigns.isNone then assigns? before.reverse else pure assigns
    if isValue && assigns == some true then
      let text ← Expansion.textOf (substitute again) true word
      wordsFrom again assigns (text :: before) rest
    else
      let fields ← Expansion.fieldsOf (substitute again) word
      wordsFrom again assigns (fields.reverse ++ before) rest

/-- Sets variables for a command, or for good. -/
def assignAll (again : Again) (isLocal exported : Bool) :
    List (Octets × Word) → Action (List (Octets × Value))
  | [] => return []
  | (name, word) :: rest => do
    let value ← Expansion.valueOf (substitute again) word
    if isLocal then Action.hide name
    Action.assignValue name value (isLocal || exported)
    return (name, value) :: (← assignAll again isLocal exported rest)

/-- What stands in front of a command that is shown, with parameters and the output of scripts put in. -/
def lead (again : Again) : Action Octets := do
  let shell ← get
  let text := (shell.value? "PS4".toList).getD []
  let source : Source := { rest := text }
  match (Reading.documentText Script.readingDepth).run source with
  | .error .tooDeep => Action.overflow
  | .error (.mistake why _) =>
    Action.complain why
    return text
  | .ok (word, _) =>
    set { shell with flags := shell.flags.filter (· != 'x') }
    let text ← Expansion.textOf (substitute again) false word
    modify fun after => { after with flags := shell.flags, status := shell.status }
    return text

/-- Shows a command before it is run, if the shell does so. -/
def trace (again : Again) (streams : List (Nat × Nat)) (assigned : List (Octets × Value))
    (words : List Octets) : Action Unit := do
  let shell ← get
  if shell.has 'x' then
    let parts := assigned.map (fun (name, value) => name ++ '=' :: value.text) ++ words
    keepingStreams (fun _ => true) do
      modify fun shell => { shell with streams }
      let _ ← Action.write 2 ((← lead again) ++ Octets.join [' '] parts ++ ['\n'])

/-- Runs what a command asks for. A program takes the place of a shell that ends with it, unless there is something
to do on signals. -/
def perform (again : Again) (starter : Starter) (manner : Manner) (command : Command) : Action Unit := do
  match command.task, command.words with
  | .function body, _ :: words => call again manner.tested body words
  | .builtin name, _ :: words =>
    guarded command.isSpecial (Action.naming name.toList (builtin again starter manner.tested name words))
  | .program, name :: words =>
    if manner.isLast && (← get).traps.all (·.2.isEmpty) then giveWay (← execute starter true name words)
    else
      match ← execute starter false name words with
      | .ok code =>
        Action.resume
        Action.report code
        Action.finish (seen code)
      | .error code => Action.finish code
  | _, _ => Action.finish ((← get).substituted.getD 0)

/-- Runs a simple command. -/
def simple (again : Again) (starter : Starter) (manner : Manner) (line : Nat)
    (assignments : List (Octets × Word)) (words : List Word) (redirects : List Redirect) : Action Unit := do
  modify fun shell => { shell with line, substituted := none }
  let fields ← wordsFrom again none [] words
  let command ← commandOf fields
  let streams := (← get).streams
  let isExec := match command.task with
    | .builtin name => name == "exec"
    | _ => false
  let action : Action Unit := do
    let targets ← readyAll again redirects
    if ← redirectAll again targets then
      let isLocal := !(fields.isEmpty || command.isSpecial)
      let assigned ← assignAll again isLocal (isExec && command.isSpecial && 1 < fields.length) assignments
      trace again streams assigned fields
      perform again starter manner command
    else
      Action.finish 2
      if command.isSpecial then throw .mistake
  let isLocal := !(fields.isEmpty || command.isSpecial)
  let action := if isLocal && !assignments.isEmpty then Action.restoring action else action
  if isExec && command.words.length == 1 then action else keepingStreams (isChanged redirects) action

/-! Scripts. -/

/-- Runs the parts of a pipeline, each of which reads what the one before has written, as far as there is room for it;
their codes. A part that would have to read more stands still while the others go on. -/
def flow (again : Again) (manner : Manner) (room : Nat) : Option Nat → List Script → Action (List Int)
  | _, [] => return []
  | input, script :: rest => do
    let output? ← if rest.isEmpty then pure none
      else some <$> addFile { leads := .pipe { room := some room } }
    let (number, code) ← apart again false do
      if let some number := input then connect 0 number
      if let some number := output? then connect 1 number
      again.script { manner with isLast := true } script
    Action.bury number
    match output? with
    | none => return [code]
    | some number =>
      let world := (← get).world
      if world.halt = some .starved then
        modify fun shell => { shell with world := { world.cut number with halt := none } }
      else if world.halt.isSome then throw .stuck
      return code :: (← flow again manner room (some number) rest)

/-- How much room the pipes of a pipeline have. If more is read than that, it is run once more with more room. -/
def rooms : List Nat :=
  [0x2000, 0x10000, 0x100000, 0x2000000]

/-- Runs a pipeline. -/
def pipeline (again : Again) (manner : Manner) (parts : List Script) : List Nat → Action Unit
  | [] => Action.halt .starved
  | room :: more => do
    let before ← get
    let codes ← flow again manner room none parts
    if (← get).world.halt = some .starved then
      set before
      pipeline again manner parts more
    else
      Action.resume
      for code in codes do Action.report code
      Action.finish (seen (codes.getLast?.getD 0))

/-- Runs a script in the background. It is at its end before the shell goes on, or never comes to it; signals from it
arrive when somebody waits. -/
def background (again : Again) (script : Script) : Action Unit := do
  let before ← get
  let slot := Job.freeSlot before.jobs
  let size := match script with
    | .pipe parts => parts.length
    | _ => 1
  let (process, code) ← apart again true do
    let number ← addFile { leads := .nowhere }
    connect 0 number
    again.script { isLast := true } script
  let shell ← get
  let known := before.world.signals
  let fresh := shell.world.signals.filter (!known.contains ·)
  let ended := if shell.world.halt.isSome then [] else [(shell.own, Signal.child)]
  set { shell with
    jobs := { slot, process, size, code := if shell.world.halt.isSome then none else some code } :: shell.jobs
    lastStarted := some process
    status := 0
    world := { shell.world with
      signals := known
      coming := shell.world.coming ++ fresh ++ ended
      halt := none } }

/-- How a part of a round of a loop has ended. -/
inductive Turn
  | through
  /-- The next round follows. -/
  | skipped
  /-- The loop is over. -/
  | ended

/-- Runs a part of a round of a loop. -/
def turn (action : Action Unit) : Action Turn := fun shell =>
  match action shell with
  | (.ok (), after) => (.ok .through, after)
  | (.error (.leave count), after) =>
    if count ≤ 1 then (.ok .ended, { after with status := 0 }) else (.error (.leave (count - 1)), after)
  | (.error (.resume count), after) =>
    if count ≤ 1 then (.ok .skipped, { after with status := 0 }) else (.error (.resume (count - 1)), after)
  | (.error why, after) => (.error why, after)

/-- Runs an action as a loop, which can be left. -/
def asLoop (action : Action Unit) : Action Unit := fun shell =>
  let (result, after) := action { shell with loops := shell.loops + 1 }
  (result, { after with loops := shell.loops })

/-- After how many rounds processes in the background have had their turn. -/
def roundsAhead : Nat := 1000

/-- Goes round a loop; `code` is that of the last round. -/
def rounds (again : Again) (tested onSuccess : Bool) (condition body : Script) : Nat → Nat → Action Unit
  | 0, _ => Action.halt .endless
  | left + 1, code => do
    if left + roundsAhead = (← get).patience then
      let _ ← Action.arrive
    match ← turn (unlessGiven code (again.script { tested := true } condition)) with
    | .ended => Action.finish code
    | .skipped => rounds again tested onSuccess condition body left code
    | .through =>
      if ((← get).status == 0) == onSuccess then
        match ← turn (again.script { tested } body) with
        | .ended => return ()
        | _ => rounds again tested onSuccess condition body left (← get).status
      else Action.finish code

/-- Goes round a loop over fields. -/
def eachOf (again : Again) (tested : Bool) (name : Octets) (body : Script) : List Octets → Action Unit
  | [] => return ()
  | field :: rest => do
    Action.assign name field
    match ← turn (again.deeper 1 { tested } body) with
    | .ended => return ()
    | _ => eachOf again tested name body rest

/-- The script of the first case with a pattern for a text. -/
def chosen? (again : Again) (text : Octets) : List (List Word × Script) → Action (Option Script)
  | [] => return none
  | (patterns, script) :: rest => do
    if ← matchesOne patterns then return some script else chosen? again text rest
where
  /-- Whether one of the patterns is for the text. -/
  matchesOne : List Word → Action Bool
    | [] => return false
    | word :: rest => do
      let marks ← Expansion.patternOf (substitute again) word
      if Pattern.accepts (Pattern.ofMarks marks) text then return true else matchesOne rest

/-- Runs a script, apart from what signals ask for. -/
def enact (again : Again) (starter : Starter) (manner : Manner) (script : Script) : Action Unit := do
  let tested := manner.tested
  match script with
  | .nothing => Action.finish 0
  | .simple line assignments words redirects => simple again starter manner line assignments words redirects
  | .sequence first second =>
    again.script { tested } first
    again.script manner second
  | .both first second =>
    again.script { tested := true } first
    if (← get).status = 0 then again.script manner second
  | .either first second =>
    again.script { tested := true } first
    if (← get).status != 0 then again.script manner second
  | .negation script =>
    again.script { tested := true } script
    Action.finish (if (← get).status = 0 then 1 else 0)
  | .pipe parts => pipeline again manner parts rooms
  | .background script => background again script
  | .inner line script =>
    modify fun shell => { shell with line }
    if manner.isLast && (← get).traps.all (·.2.isEmpty) then again.script manner script
    else Action.finish (← inside again (again.script { tested, isLast := true } script))
  | .redirected line script redirects =>
    modify fun shell => { shell with line }
    keepingStreams (isChanged redirects) do
      let targets ← readyAll again redirects
      if ← redirectAll again targets then again.script { tested } script
      else
        Action.finish 2
        check tested
  | .branch condition yes no =>
    again.script { tested := true } condition
    if (← get).status = 0 then again.script manner yes else again.script manner no
  | .loop onSuccess condition body => do
    let patience := (← get).patience
    asLoop (rounds again tested onSuccess condition body patience 0)
  | .each line name words body =>
    modify fun shell => { shell with line }
    let fields ← Expansion.allFields (substitute again) words
    if fields.isEmpty then Action.finish 0
    asLoop (eachOf again tested name body fields)
  | .choice line word cases =>
    modify fun shell => { shell with line }
    let text ← Expansion.textOf (substitute again) false word
    match ← chosen? again text cases with
    | some script => again.deeper 1 manner script
    | none => Action.finish 0
  | .function name body =>
    modify fun shell =>
      { shell with functions := (name, body) :: shell.functions.filter (·.1 != name), status := 0 }

/-- Whether a shell that ends when a command fails pays attention to how a script has ended. -/
def isChecked : Script → Bool
  | .simple .. | .pipe _ | .inner .. | .background _ => true
  | _ => false

/-- Runs an action, which ends the shell if it comes back from a function with a failure that nobody tests. -/
def checkingBack (tested : Bool) (action : Action Unit) : Action Unit := fun shell =>
  match action shell with
  | (.error (.back code isGiven), after) =>
    (.error (if !tested && after.has 'e' && code != 0 then .exit code else .back code isGiven), after)
  | other => other

/-- Runs a script. -/
def step (again : Again) (starter : Starter) (manner : Manner) (script : Script) : Action Unit := do
  if (← get).has 'n' then return ()
  attend again
  if isChecked script then
    checkingBack manner.tested (enact again starter manner script)
    attend again
    check manner.tested
  else
    enact again starter manner script
    attend again

/-- How many lines of a text are run at most. -/
def lineBound : Nat := 0x10000000000

/-- Runs the lines of a text, each before the next one is read; whether there was a command in them. -/
def lines (again : Again) (tested : Bool) : Nat → Bool → Source → Action Bool
  | 0, _, _ => Action.overflow
  | left + 1, isFound, source => do
    match Script.next { source with aliases := (← get).aliases } with
    | .error .tooDeep => Action.overflow
    | .error (.mistake why line) =>
      modify fun shell => { shell with line }
      Action.refuse why
    | .ok (none, _) => return isFound
    | .ok (some .nothing, source) => lines again tested left isFound source
    | .ok (some script, source) =>
      again.script { tested } script
      lines again tested left true source

mutual

/-- Runs a script that lies deeper by some steps; `fuel` bounds how deep scripts run one another. -/
def run (starter : Starter) : Nat → Nat → Manner → Script → Action Unit
  | 0, _, _, _ => Action.overflow
  | fuel + 1, more + 1, manner, script => run starter fuel more manner script
  | fuel + 1, 0, manner, script => step ⟨run starter fuel, runText starter fuel⟩ starter manner script

/-- Runs the script that a text is. -/
def runText (starter : Starter) : Nat → Nat → Bool → Octets → Action Unit
  | 0, _, _, _ => Action.overflow
  | fuel + 1, more + 1, tested, text => runText starter fuel more tested text
  | fuel + 1, 0, tested, text => do
    let again := ⟨run starter fuel, runText starter fuel⟩
    if !(← lines again tested lineBound false { rest := text }) then Action.finish 0

end

end Evaluation

end PreMerge.Host
