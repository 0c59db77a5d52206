import PreMerge.Command.Launch
import PreMerge.Host.Program
import PreMerge.Host.Shell.Start

/-! The host that commands run on. A name with a slash is a file to execute, and any other name stands for
the first program of that name in one of the directories of programs. A file that starts with the mark of a
script is executed by the program that its first line names. Launches on the host (`launcher`) are those of the
program. -/

namespace PreMerge.Host.Machine

/-- The program at a place. -/
def programAt? : List String → Option String
  | ["bin", name] => if name ∈ Program.names then some name else none
  | ["usr", "bin", name] => if name ∈ Program.names then some name else none
  | _ => none

/-- How much of a file is looked at for the mark of a script. -/
def lineBound : Nat := 256

/-- Whether a character sets parts of the first line of a script apart. -/
def isBlank (c : Char) : Bool :=
  c == ' ' || c == '\t'

/-- A text without blanks at its end. -/
def dropLastBlanks (text : Octets) : Octets :=
  (text.reverse.dropWhile isBlank).reverse

/-- The program that the first line of a script names after the mark, and the argument it gives to it. A line
that is too long counts only as far as it is looked at, if the name ends before. -/
def interpreter? (content : ByteArray) : Option (Octets × Option Octets) :=
  let looked := Octets.ofContent (content.extract 0 lineBound)
  match looked ++ List.replicate (lineBound - looked.length) '\u0000' with
  | '#' :: '!' :: rest =>
    let line := rest.takeWhile fun c => c != '\n' && c != '\u0000'
    if rest[line.length]? = some '\n' then
      let line := (dropLastBlanks line).dropWhile isBlank
      let argument := (line.dropWhile (!isBlank ·)).dropWhile isBlank
      if line = [] then none
      else some (line.takeWhile (!isBlank ·), if argument = [] then none else some argument)
    else
      let start := rest.dropWhile isBlank
      let ends := fun c => isBlank c || c == '\u0000'
      if start = [] || !start.any ends then none
      else
        let start := (dropLastBlanks rest.dropLast).dropWhile isBlank
        let argument := match start.dropWhile (!ends ·) with
          | c :: more =>
            if isBlank c then some ((more.dropWhile isBlank).takeWhile (· != '\u0000')) else none
          | [] => none
        some (start.takeWhile (!ends ·), argument)
  | _ => none

/-- How many scripts one after another may name the next as their program. -/
def scriptBound : Nat := 5

/-- The place of the file to execute at a path. -/
def executable (world : World) (path : Octets) : Except Refusal (List String × ByteArray) := do
  let place ← world.locate true path
  match world.tree.root.at? place with
  | some (.file content true) => return (place, content)
  | some _ => throw .denied
  | none => throw .notFound

/-- The program that is run for a path, and its words. `left` bounds how many scripts may be in between. -/
def resolve (world : World) : Nat → Octets → List Octets → Except Refusal (String × List Octets)
  | left, path, words => do
    let (place, content) ← executable world path
    match programAt? place with
    | some program => return (program, words)
    | none =>
      match interpreter? content with
      | none => throw .badFormat
      | some (name, argument) =>
        match left with
        | 0 =>
          let _ ← executable world name
          throw .linkLoop
        | left + 1 => resolve world left name (name :: argument.toList ++ path :: words.tail)

/-- The program that is run for a path, and its words, if these are not too long. -/
def accept (own : Inherited) (world : World) (path : Octets) (words : List Octets) :
    Except Refusal (String × List Octets) := do
  let _ ← executable world path
  if own.isOverfull path words then .error .argumentsTooLong else resolve world scriptBound path words

/-- How deep programs may start one another. -/
def depthBound : Nat := 20000

/-- Words at blanks. -/
def splitWords (text : Octets) : List Octets :=
  (Text.pieces ' ' (text.map fun c => if Octets.isBlank c then ' ' else c)).filter (· != [])

/-- What `env` does: it changes the environment and starts a program in it, or shows it. -/
def env (starter : Starter) : Nat → List Octets → Process Int
  | 0, _ => return 125
  | _ + 1, [] => do
    let own ← read
    let lines := own.environment.flatMap fun (name, value) => name ++ '=' :: value ++ ['\n']
    let code ← Process.print lines
    return code
  | fuel + 1, word :: rest => do
    match word with
    | ['-'] | ['-', 'i'] =>
      withReader (fun own => { own with environment := [] }) (env starter fuel rest)
    | ['-', 'u'] =>
      let kept := fun (own : Inherited) => own.environment.filter fun (name, _) => some name != rest.head?
      withReader (fun own => { own with environment := kept own }) (env starter fuel rest.tail)
    | ['-', 'S'] => env starter fuel (splitWords (rest.headD []) ++ rest.tail)
    | '-' :: 'S' :: text => env starter fuel (splitWords text ++ rest)
    | ['-', '-'] => env starter fuel rest
    | _ =>
      match Octets.splitAt? '=' word with
      | some (name, value) =>
        let others := fun (own : Inherited) => own.environment.filter (·.1 != name)
        withReader (fun own => { own with environment := others own ++ [(name, value)] })
          (env starter fuel rest)
      | none =>
        match ← (starter.orScript fun _ => true).byName word rest with
        | .ok code => return code
        | .error refusal =>
          Process.complain (Quoting.message word ++ ": ".toList ++ refusal.wording.toList)
          return if refusal = .notFound then 127 else 126

/-- Runs a process that a signal ends when it writes what nobody reads; its code. -/
def untilUnread (process : Process Int) : Process Int := do
  let code ← process
  if (← get).halt = some .unread then
    modify fun world => { world with halt := none }
    return -Signal.pipe
  else return code

/-- Starts the program at a path. `depth` bounds how deep programs start one another. -/
def start : Nat → Starter
  | 0, _, _ => return .error .linkLoop
  | depth + 1, path, words => do
    let own ← read
    match accept own (← get) path words with
    | .error refusal => return .error refusal
    | .ok (program, words) =>
      let named := fun (own : Inherited) => { own with name := words.headD [] }
      match program with
      | "sh" | "dash" => return .ok (← Shell.session (start depth) words)
      | "env" =>
        let fuel := words.flatten.length + words.length + 1
        return .ok (← untilUnread (withReader named (env (start depth) fuel words.tail)))
      | _ =>
        match Program.run? program words.tail with
        | some process => return .ok (← untilUnread (Int.ofNat <$> withReader named process))
        | none => return .error .badFormat

/-- The environment of all commands. -/
def environment : List (String × String) :=
  [("PATH", "/usr/local/sbin:/usr/local/bin:/usr/sbin:/usr/bin:/sbin:/bin"), ("HOME", "/root")]

/-- Whether a launch has a text that no process can be given. -/
def hasNull (request : Request) : Bool :=
  request.argv.any (·.toList.contains '\u0000') || request.place.hasNull

/-- The fault of a working directory that cannot be entered. -/
def placeFault (refusal : Refusal) (place : Path) : Fault :=
  ⟨.system, [.whole refusal.number, .text refusal.wording, .place place.text]⟩

/-- The tree as seen from another directory. -/
def enter (tree : FileTree) (place : Path) : Except Refusal FileTree :=
  match tree.locate true place place.text with
  | .error refusal => .error refusal
  | .ok here =>
    if tree.isDirectory place place.text then .ok { tree with here } else .error .notDirectory

/-- What a command inherits: nothing comes in, what it prints is kept, and its complaints are not. -/
def inherited (more : List (String × String)) : Std.TreeMap Nat Opened × Inherited :=
  (.ofList [(0, ({ leads := .nowhere } : Opened)), (1, { leads := .pipe {} })],
    { streams := [(0, 0), (1, 1), (2, 0)]
      environment := (environment ++ more).map fun (name, value) =>
        (Octets.ofString name, Octets.ofString value) })

/-- How a process ends, and the site after it; what is printed is kept. One that does not come to its end is stopped
when its time is over. -/
def answer (more : List (String × String)) (launch : Launch) (site : Site Octets) : Ending × Site Octets :=
  let request := launch.request
  if hasNull request then (.refused .nullInPath, site)
  else match enter site.tree request.place with
    | .error refusal => (.refused (placeFault refusal request.place), site)
    | .ok tree =>
      let name := request.argv.head?.getD ""
      let words := request.argv.map Octets.ofString
      let (opened, own) := inherited more
      let (started, world) := (((start depthBound).byName (words.headD []) words.tail).run own).run
        { tree, opened }
      match started with
      | .error refusal => (.refused (refusal.fault name), site)
      | .ok code =>
        (if world.halt.isSome then .timedOut (launch.timeout.getD .nan) else .exited code,
          { site with
            tree := { world.tree with here := site.tree.here }
            hidden := site.hidden ++ world.pipeText 1 })

/-- Processes on the host, with more variables in their environment. -/
def launcher (more : List (String × String)) : Launcher Octets :=
  answer more

/-- Directories with nothing in them. -/
def emptyDirectories (names : List String) : List (String × Node) :=
  names.map fun name => (name, .empty)

/-- What the host has before any files are put there: devices, programs and directories. -/
def installed : Node :=
  let devices := World.devices.map fun name => (name, .file .empty false)
  let programs := Program.names.map fun name => (name, .file Program.content true)
  .directory ([("dev", .directory devices), ("bin", .link "usr/bin"), ("sbin", .link "usr/sbin"),
    ("lib", .link "usr/lib"), ("lib64", .link "usr/lib64"),
    ("usr", .directory (("bin", .directory programs) ::
      ("local", .directory (emptyDirectories ["bin", "lib", "sbin"])) ::
      emptyDirectories ["lib", "lib64", "sbin", "share"])),
    ("tmp", .empty)] ++
    emptyDirectories ["boot", "etc", "home", "media", "mnt", "opt", "proc", "root", "run", "srv", "sys", "var"])

end PreMerge.Host.Machine
