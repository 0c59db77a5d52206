import PreMerge.Host.Shell.Evaluation

/-! The start of a shell: the options and words it is given, where its script comes from, and the code it
exits with. -/

namespace PreMerge.Host.Shell

/-- How deep scripts may run one another. -/
def depth : Nat := 74800

/-- A shell with what it has inherited. -/
def ofInherited (world : World) (own : Inherited) (name : Octets) : Shell :=
  let given := own.environment.filter fun (called, _) =>
    Octets.isName called && called != "IFS".toList && called != "PWD".toList
  let place := match own.environment.find? (·.1 == "PWD".toList) with
    | some (_, shown) => if world.namesHere shown then shown else Builtin.physical world
    | none => Builtin.physical world
  let bare : Shell :=
    { world, streams := own.streams, name, place, line := 0
      bindings := Shell.initial
      own := own.process
      main := own.process
      parent := own.parent
      deaf := own.deaf
      patience := own.patience }
  let shell := given.foldl (fun shell (name, value) =>
    shell.withVariable name { value := some (.plain value), exported := true }) bare
  (shell.withVariable "PPID".toList { value := some (.plain (Octets.ofNat own.parent)) }).withVariable
    "PWD".toList { value := some (.plain place), exported := true }

/-- Takes the options from words; whether one of them asks for the first other word as the script. -/
def takeOptions : Nat → List Octets → Action (Bool × List Octets)
  | 0, words => return (false, words)
  | _ + 1, [] => return (false, [])
  | fuel + 1, word :: rest => do
    match word with
    | ['-'] | ['-', '-'] => return (false, rest)
    | '-' :: letters => onward fuel true letters rest
    | '+' :: letters => onward fuel false letters rest
    | _ => return (false, word :: rest)
where
  /-- Sets the options of one word, and goes on. -/
  onward (fuel : Nat) (isOn : Bool) (letters : Octets) (rest : List Octets) :
      Action (Bool × List Octets) := do
    let others := letters.filter fun c => c != 'c' && c != 'l'
    let rest ← Builtin.setLetters isOn others rest
    let (asked, words) ← takeOptions fuel rest
    return (asked || letters.contains 'c', words)

/-- Runs the script that the words of a shell ask for. -/
def runWords (starter : Starter) (words : List Octets) : Action Unit := do
  modify fun shell => { shell with flags := Builtin.undecided :: Builtin.flags.map (·.1) }
  let (asked, words) ← takeOptions (words.length + 1) words
  modify fun shell => { shell with flags := shell.flags.takeWhile (· != Builtin.undecided) }
  let script := Evaluation.runText starter depth 0 false
  if asked then
    match words with
    | [] => Action.refuse "-c requires an argument".toList
    | text :: names =>
      modify fun shell =>
        { shell with name := names.head?.getD shell.name, parameters := names.drop 1 }
      script text
  else
    let shell ← get
    match if shell.has 's' then [] else words with
    | [] =>
      let text ← Action.ofProcess Process.input
      modify fun shell => { shell with
        flags := 's' :: shell.flags.filter (· != 's')
        parameters := words
        world := { shell.world with halt := none } }
      script (Octets.withoutNulls (text.toOption.getD []))
      match shell.inherited.stream? 0 with
      | some number => if (← get).world.isCut number then Action.halt .starved
      | none => pure ()
    | path :: parameters =>
      match shell.inherited.openFile shell.world false .input path with
      | .error refusal =>
        Action.refuse ("cannot open ".toList ++ path ++ ": ".toList ++
          (if refusal.isMissing then "No such file" else refusal.wording).toList)
      | .ok (world, number) =>
        set { shell with name := path, parameters }
        script (Octets.withoutNulls ((world.remaining number).toOption.getD []))

/-- Runs a shell that is given words, the first of which is what it is called; the code it exits with. -/
def session (starter : Starter) (words : List Octets) : Process Int := fun own world =>
  let shell := ofInherited world own (words.headD "sh".toList)
  let again : Again := ⟨Evaluation.run starter depth, Evaluation.runText starter depth⟩
  let (code, after) := (do
    Evaluation.conclude again (← (runWords starter words.tail).run) : StateM Shell Int).run shell
  (Evaluation.ofExit code, after.world)

end PreMerge.Host.Shell
