import PreMerge.Host.Shell.Builtin

/-! The processes that a shell starts: how they are numbered, the signals it sends to them, and how it waits for
those in the background. -/

namespace PreMerge.Host

/-- The code of a process as a shell sees it. -/
def seen (code : Int) : Nat :=
  if code < 0 then 128 + code.natAbs else code.toNat

namespace Job

/-- The slot of the next job: the first one that is not taken by a job that somebody may still ask for. -/
def freeSlot (jobs : List Job) : Nat :=
  let taken := (jobs.filter fun job => !(job.code.isSome && job.isAwaited)).map (·.slot)
  (taken.reverse.mergeSort).foldl (fun free slot => if slot = free then free + 1 else free) 1

/-- How a job stands. -/
def state (job : Job) : String :=
  match job.code with
  | none => "Running"
  | some code =>
    if code < 0 then Signal.farewell code.natAbs
    else if code = 0 then "Done"
    else "Done(" ++ toString code ++ ")"

/-- How many columns the state of a job takes in a list. -/
def stateWidth : Nat := 33

/-- The line for a job in a list. -/
def line (mark : Char) (numbered : Bool) (job : Job) : Octets :=
  let number := if numbered then Octets.ofNat job.process ++ [' '] else []
  let start := '[' :: Octets.ofNat job.slot ++ [']', ' ', mark, ' '] ++ number ++ job.state.toList
  start ++ List.replicate (max 1 (stateWidth - start.length)) ' ' ++
    (List.replicate (job.size - 1) " | ".toList).flatten ++ ['\n']

end Job

namespace Shell

/-- Whether a signal ends a process in the background. -/
def endsJobs (shell : Shell) (signal : Nat) : Bool :=
  signal == Signal.kill || !(Signal.harmless ++ Signal.ofTerminal ++ shell.inherited.deaf).contains signal

/-- The shell with the jobs that signals have ended. -/
def settled (shell : Shell) : Shell :=
  { shell with
    jobs := shell.jobs.map fun job =>
      let ending := shell.world.signals.find? fun (process, signal) =>
        process == job.process && shell.endsJobs signal
      { job with code := job.code <|> ending.map fun (_, signal) => -signal } }

/-- The shell when it has noticed the end of some jobs, the processes of which are there no more. -/
def noticing (shell : Shell) (chosen : Job → Bool) : Shell :=
  let isOver := fun (job : Job) => job.code.isSome && chosen job
  let gone := (shell.jobs.filter isOver).map (·.process)
  { shell with
    jobs := shell.jobs.map fun job => if isOver job then { job with isNoticed := true } else job
    world := { shell.world with living := shell.world.living.filter (!gone.contains ·) } }

/-- The shell when it has waited for some jobs. -/
def awaiting (shell : Shell) (chosen : Job → Bool) : Shell :=
  let shell := shell.noticing chosen
  { shell with jobs := shell.jobs.map fun job => if chosen job then { job with isAwaited := true } else job }

end Shell

namespace Action

/-- Halts the process. -/
def halt {α : Type} (why : Halt) : Action α := do
  modify fun shell => { shell with world := { shell.world with halt := some why } }
  throw .stuck

/-- Lets the signals arrive that are on the way, as happens when the shell waits; the last of them that it does not
ignore. An interrupt ends the shell only when it goes on, so that other signals come before it. -/
def arrive : Action (Option Nat) := do
  let shell ← get
  if shell.world.coming.isEmpty && shell.world.signals.isEmpty then return none
  let fresh := shell.world.coming.filter (!shell.world.signals.contains ·)
  let signals := shell.world.signals ++ fresh
  let isOwn := fun (process, _) => process == shell.own
  let isAwake := fun (entry : Nat × Nat) => !isOwn entry || !(shell.effect entry.2 matches .passes)
  set { shell with world := { shell.world with signals := signals.filter isAwake, coming := [] } }.settled
  let isFatal := fun (process, signal) =>
    process == shell.own && signal != Signal.interrupt && shell.effect signal matches .ends
  match signals.find? isFatal with
  | some (_, signal) => throw (.gone (-signal))
  | none =>
    let others := fresh.filter fun entry => isOwn entry && isAwake entry && entry.2 != Signal.child
    return others.getLast?.map (·.2)

/-- Goes on when a process has come to its end, if a signal has not ended this one. -/
def resume : Action Unit := do
  if (← get).world.halt.isSome then throw .stuck
  receive Signal.child
  let _ ← arrive
  modify (·.noticing fun _ => true)

/-- The number of a new process. A job makes room for it that nobody may ask for any more. -/
def fork : Action Nat := do
  let shell ← get
  let number := shell.world.nextProcess
  let slot := Job.freeSlot shell.jobs
  set { shell with
    jobs := shell.jobs.filter (·.slot != slot)
    world := { shell.world with nextProcess := number + 1, living := number :: shell.world.living } }
  return number

/-- Sees to it that a process is there no more. -/
def bury (process : Nat) : Action Unit :=
  modify fun shell =>
    { shell with world := { shell.world with living := shell.world.living.filter (· != process) } }

/-- Reports that a signal has ended a process. -/
def report (code : Int) : Action Unit := do
  if code < 0 && !Signal.isQuiet code.natAbs then
    let _ ← write 2 ((Signal.farewell code.natAbs).toList ++ ['\n'])

/-- Sends a signal to a process; whether it is there. -/
def send (signal process : Nat) : Action Bool := do
  let shell ← get
  if !shell.world.living.contains process then return false
  else
    if signal = 0 then return true
    else if process = shell.own then receive signal
    else set { shell with
      world := { shell.world with signals := shell.world.signals ++ [(process, signal)] } }
    return true

end Action

namespace Builtin

/-- The builtin commands that deal with processes. -/
def forProcesses : List String :=
  ["bg", "fg", "jobs", "kill", "wait"]

/-- The job that a word names behind a percent sign. -/
def jobNamed (word : Octets) : Action Job := do
  let jobs := (← get).jobs
  let missing := "No such job: ".toList ++ word
  match word with
  | ['%'] | ['%', '+'] | ['%', '%'] => found "No current job".toList jobs.head?
  | ['%', '-'] => found "No previous job".toList jobs[1]?
  | ['%', '?'] => if 1 < jobs.length then Action.refuse (word ++ ": ambiguous".toList) else found missing jobs.head?
  | '%' :: name =>
    found missing <|
      if name.all Char.isDigit then jobs.find? (·.slot == Integer.ofDigits 10 name) else none
  | _ => found missing none
where
  /-- The job, if there is one. -/
  found (why : Octets) : Option Job → Action Job
    | some job => return job
    | none => Action.refuse why

/-- Waits for jobs; the code of the last one. A signal cuts the waiting short. -/
def wait (words : List Octets) : Action Nat := do
  let (_, words) ← options "" words
  if words.isEmpty then
    match ← Action.arrive with
    | some signal => return 128 + signal
    | none =>
      if (← get).jobs.any (·.code.isNone) then Action.halt .endless
      modify (·.awaiting fun _ => true)
      return 0
  else waitFor 127 words
where
  /-- Waits for one job after another. -/
  waitFor (code : Nat) : List Octets → Action Nat
    | [] => return code
    | word :: rest => do
      let job? ← if word.head? == some '%' then some <$> jobNamed word else do
        let process ← Action.number word
        pure ((← get).jobs.find? (·.process == process))
      match job? with
      | none => waitFor code rest
      | some job =>
        match ← Action.arrive with
        | some signal => return 128 + signal
        | none =>
          match ((← get).jobs.find? (·.slot == job.slot)).bind (·.code) with
          | none => Action.halt .endless
          | some ended =>
            if !job.isNoticed then Action.report ended
            modify fun shell => (shell.noticing fun _ => true).awaiting (·.slot == job.slot)
            waitFor (seen ended) rest

/-- Sends a signal to processes, or lists the names of signals. -/
def kill (words : List Octets) : Action Nat := do
  match words with
  | [] => usage
  | ('-' :: name) :: rest =>
    match Signal.number? 1 name with
    | some signal => send signal rest
    | none =>
      let (given, rest) ← options "ls:" words
      let mut signal := none
      for (c, value) in given do
        if c = 's' then
          match Signal.number? 1 value with
          | some n => signal := some n
          | none => Action.refuse ("invalid signal number or name: ".toList ++ value)
      if !given.any (·.1 == 'l') then send (signal.getD 15) rest
      else if signal.isSome && !rest.isEmpty then usage
      else list rest
  | words => send 15 words
where
  /-- Reports how the command is used. -/
  usage {α : Type} : Action α :=
    Action.refuse ("Usage: kill [-s sigspec | -signum | -sigspec] [pid | job]... or\n" ++
      "kill -l [exitstatus]").toList
  /-- Lists the names of signals, or the one that a code stands for. -/
  list (words : List Octets) : Action Nat := do
    match words with
    | [] => print ("0\n".toList ++ (Signal.names.drop 1).flatMap fun name => name.toList ++ ['\n'])
    | word :: _ =>
      let n ← Action.number word
      let n := if 128 < n then n - 128 else n
      if 0 < n && n < Signal.names.length then print (Signal.nameOf n ++ ['\n'])
      else Action.refuse ("invalid signal number or exit status: ".toList ++ word)
  /-- Sends a signal to processes. -/
  send (signal : Nat) (words : List Octets) : Action Nat := do
    if words.isEmpty then usage
    let mut code := 0
    for word in words do
      let isThere ← match word with
        | '%' :: _ => do
          let _ ← jobNamed word
          pure false
        | '-' :: digits => do
          let _ ← Action.number digits
          pure false
        | _ => do
          let process ← Action.number word
          let shell ← get
          Action.send signal (if process = 0 then shell.own else process)
      if !isThere then
        Action.complain "No such process\n".toList
        code := 1
    return code

/-- Lists jobs. Those that are over are forgotten. -/
def jobs (words : List Octets) : Action Nat := do
  let (given, words) ← options "lp" words
  let chosen ← if words.isEmpty then pure (← get).jobs else words.mapM jobNamed
  for job in chosen do
    let shell ← get
    let mark := if shell.jobs.head? == some job then '+'
      else if shell.jobs[1]? == some job then '-' else ' '
    let _ ← match given.getLast?.map (·.1) with
      | some 'p' => print (Octets.ofNat job.process ++ ['\n'])
      | letter => print (job.line mark (letter == some 'l'))
    if job.code.isSome && (given.getLast?.map (·.1)) != some 'p' then
      modify fun shell => { shell with jobs := shell.jobs.filter (·.slot != job.slot) }
  return 0

/-- Refuses to bring a job to the front: it has been started without the means to. -/
def bringForward (words : List Octets) : Action Nat := do
  let (_, words) ← options "" words
  let _ ← jobNamed (words.headD ['%'])
  Action.refuse ("job ".toList ++ words.headD "(null)".toList ++ " not created under job control".toList)

/-- What a builtin command does that deals with processes; its code. -/
def runForProcesses (name : String) (words : List Octets) : Action Nat :=
  match name with
  | "wait" => wait words
  | "kill" => kill words
  | "jobs" => jobs words
  | _ => bringForward words

end Builtin

end PreMerge.Host
