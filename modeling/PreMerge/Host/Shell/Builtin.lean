import PreMerge.Host.Condition
import PreMerge.Host.Format
import PreMerge.Host.Quoting
import PreMerge.Host.Reader
import PreMerge.Host.Shell.Expansion

/-! The builtin commands of the shell, apart from those that run scripts. -/

namespace PreMerge.Host.Builtin

/-- The builtin commands that are not special. -/
def regular : List String :=
  ["[", "alias", "bg", "cd", "chdir", "command", "echo", "false", "fg", "getopts", "hash", "jobs", "kill",
    "printf", "pwd", "read", "test", "true", "type", "ulimit", "umask", "unalias", "wait"]

/-- The builtin commands whose words assign values. -/
def assigning : List String :=
  ["export", "readonly", "local"]

/-- The options in front of words, with their values where a colon follows the letter, and the other words. -/
def options (letters : String) : List Octets → Action (List (Char × Octets) × List Octets)
  | [] => return ([], [])
  | word :: rest =>
    match word with
    | ['-', '-'] => return ([], rest)
    | '-' :: c :: more => do
      let (given, value) ← letter (c :: more)
      match value with
      | none =>
        let (others, operands) ← options letters rest
        return (given ++ others, operands)
      | some c =>
        match rest with
        | [] => Action.refuse ("No arg for -".toList ++ [c] ++ " option".toList)
        | value :: rest =>
          let (others, operands) ← options letters rest
          return (given ++ (c, value) :: others, operands)
    | _ => return ([], word :: rest)
where
  /-- The options in a word, and the letter of one whose value is the next word. -/
  letter : Octets → Action (List (Char × Octets) × Option Char)
    | [] => return ([], none)
    | c :: more => do
      match if c = ':' then [] else letters.toList.dropWhile (· != c) with
      | _ :: ':' :: _ => if more.isEmpty then return ([], some c) else return ([(c, more)], none)
      | _ :: _ =>
        let (others, value) ← letter more
        return ((c, []) :: others, value)
      | [] => Action.refuse ("Illegal option -".toList ++ [c])

/-- Prints a text. -/
def print (text : Octets) : Action Nat := do
  if ← Action.write 1 text then return 0
  else
    let name := (← get).command.elim [] (· ++ ": ".toList)
    Action.complain (name ++ "I/O error".toList)
    return 1

/-- A text in single quotes, in which quotes are in double ones. -/
def quoted (text : Octets) : Octets :=
  let parts := text.splitBy fun c d => (c == '\'') == (d == '\'')
  let shown := parts.flatMap fun part =>
    if part.head? == some '\'' then '"' :: part ++ ['"'] else '\'' :: part ++ ['\'']
  if text.isEmpty || text.head? == some '\'' then "''".toList ++ shown else shown

/-! Printing. -/

/-- Prints words with blanks between them, with their escapes resolved. -/
def echo (words : List Octets) : Action Nat :=
  let withoutEnd := words.head? == some "-n".toList
  let text := Octets.join [' '] (if withoutEnd then words.tail else words)
  let (text, ends) := Format.shellEscapes (text.length + 1) text
  print (if withoutEnd || ends then text else text ++ ['\n'])

/-- Prints words by a format. -/
def printf (words : List Octets) : Action Nat := do
  let (_, words) ← options "" words
  match words with
  | [] => Action.refuse "usage: printf format [arg ...]".toList
  | format :: operands =>
    let printed := Format.print .shell format operands
    for part in printed.parts do
      if let .inr why := part then Action.complain why
    if let some why := printed.mistake then Action.complain why
    let texts := printed.parts.flatMap fun
      | .inl text => text
      | .inr _ => []
    let code ← print texts
    return if printed.mistake.isSome then 2 else if printed.failed then 1 else code

/-! Directories. -/

/-- The physical working directory. -/
def physical (world : World) : Octets :=
  '/' :: Octets.join ['/'] (world.tree.here.map Octets.ofString)

/-- The parts of a path with its dots resolved. -/
def resolved (path : Octets) : List Octets :=
  ((Text.pieces '/' path).foldl (fun done part =>
    if part = [] || part = ['.'] then done else if part = ['.', '.'] then done.drop 1 else part :: done)
    []).reverse

/-- A path as seen from a place, with its dots resolved. Two slashes at its start stay. -/
def absolute (place path : Octets) : Octets :=
  let whole := if path.head? == some '/' then path
    else if place.getLast? == some '/' then place ++ path
    else place ++ '/' :: path
  let slashes := whole.takeWhile (· == '/')
  (if slashes.length = 2 then slashes else ['/']) ++ Octets.join ['/'] (resolved whole)

/-- Enters a directory, which is shown as `place` from then on. -/
def enter (place : Octets) : Action Bool := do
  let shell ← get
  match shell.world.locate true place, shell.world.isDirectory place with
  | .ok here, true =>
    set { shell with world := { shell.world with tree := { shell.world.tree with here } } }
    return true
  | _, _ => return false

/-- Changes the working directory. -/
def cd (words : List Octets) : Action Nat := do
  let (given, words) ← options "LP" words
  let shell ← get
  let isPhysical := (given.getLast?.map (·.1)) == some 'P'
  let back := words.head? == some ['-']
  let target := match words with
    | [] => (shell.value? "HOME".toList).getD []
    | word :: _ => if back then (shell.value? "OLDPWD".toList).getD [] else word
  let (name, searched) := destination shell target
  let logical := absolute shell.place name
  if ← enter (if isPhysical then name else logical) then
    let entered ← get
    let shown := if isPhysical then physical entered.world else logical
    let old := shell.place
    modify fun shell => { shell with place := shown }
    Action.assignValue "OLDPWD".toList (.plain old) true
    Action.assignValue "PWD".toList (.plain shown) true
    if back || searched then print (shown ++ ['\n']) else return 0
  else
    Action.refuse ("can't cd to ".toList ++ target)
where
  /-- The directory that a name stands for, which is searched for in a list of others if there is one; whether
  it was found in one of these. -/
  destination (shell : Shell) (target : Octets) : Octets × Bool :=
    let name := if target = [] then ['.'] else target
    let first := target.takeWhile (· != '/')
    match shell.value? "CDPATH".toList with
    | none => (name, false)
    | some paths =>
      if target.head? == some '/' || first == ['.'] || first == ['.', '.'] then (name, false)
      else
        let found := (Text.pieces ':' paths).find? fun directory =>
          shell.world.isDirectory (if directory = [] then name else directory ++ '/' :: name)
        match found with
        | none | some [] => (name, false)
        | some directory => (directory ++ '/' :: name, true)

/-- Prints the working directory. -/
def pwd (words : List Octets) : Action Nat := do
  let (given, _) ← options "LP" words
  let shell ← get
  let isPhysical := (given.getLast?.map (·.1)) == some 'P'
  print ((if isPhysical then physical shell.world else shell.place) ++ ['\n'])

/-! Variables. -/

/-- What lists variables. -/
def listing (lead : String) (shown : Variable → Bool) : Action Nat := do
  let shell ← get
  let chosen := shell.bindings.filter fun (_, entry) => shown entry
  let lines := chosen.map fun (name, entry) =>
    lead.toList ++ name ++ entry.value.elim [] fun value => '=' :: quoted value.text
  print ((Octets.sort lines).flatMap (· ++ ['\n']))

/-- Changes variables, and sets those that a value is given to. -/
def marking (change : Variable → Variable) : List Octets → Action Unit
  | [] => return ()
  | word :: rest => do
    let (name, value) := match Octets.splitAt? '=' word with
      | some (name, value) => (name, some value)
      | none => (word, none)
    if !Octets.isName name then Action.refuse (name ++ ": bad variable name".toList)
    if let some value := value then Action.assign name value
    modify fun shell => shell.withVariable name (change ((shell.lookUp? name).getD {}))
    marking change rest

/-- Exports variables. -/
def exporting (words : List Octets) : Action Nat := do
  let (given, words) ← options "p" words
  if words.isEmpty || !given.isEmpty then listing "export " (·.exported)
  else
    marking (fun entry => { entry with exported := true }) words
    return 0

/-- Protects variables. -/
def protecting (words : List Octets) : Action Nat := do
  let (given, words) ← options "p" words
  if words.isEmpty || !given.isEmpty then listing "readonly " (·.constant)
  else
    marking (fun entry => { entry with constant := true }) words
    return 0

/-- Hides variables while a function runs, or the options. -/
def conceal : List Octets → Action Unit
  | [] => return ()
  | word :: rest => do
    if word = ['-'] then Action.hideFlags
    else
      match Octets.splitAt? '=' word with
      | some (name, value) =>
        Action.hide name
        Action.assign name value
      | none =>
        if !Octets.isName word then Action.refuse (word ++ ": bad variable name".toList)
        Action.hide word
    conceal rest

/-- Removes variables or functions. -/
def unset (words : List Octets) : Action Nat := do
  let (given, words) ← options "vf" words
  let functions := (given.getLast?.map (·.1)) == some 'f'
  for word in words do
    if functions then
      modify fun shell => { shell with functions := shell.functions.filter (·.1 != word) }
    else
      let name ← Action.nameIn word
      match (← get).lookUp? name with
      | some entry =>
        if entry.constant then Action.refuse (name ++ ": is read only".toList)
        if name = "OPTIND".toList then Action.refuse "Illegal number: ".toList
        modify fun shell => shell.withoutVariable name
      | none => pure ()
  return 0

/-- The bits of a line that comes in, how many characters it took, and whether it was ended. A backslash quotes
the next character, unless `raw`. -/
def incomingLine (raw : Bool) : Nat → Octets → List Bit × Nat × Bool
  | count, [] => ([], count, false)
  | count, '\n' :: _ => ([], count + 1, true)
  | count, [c] => (if c = '\\' && !raw || c = '\u0000' then [] else Bit.cons c false true [], count + 1, false)
  | count, c :: d :: rest =>
    if c = '\\' && !raw then
      let (bits, later) := incomingLine raw (count + 2) rest
      (if d = '\n' then .range false :: bits else Bit.cons d true false (.range false :: bits), later)
    else
      let (bits, later) := incomingLine raw (count + 1) (d :: rest)
      (if c = '\u0000' then bits else Bit.cons c false true bits, later)

/-- The next line of an open file as `incomingLine` tells it. It is sought in the next part of the file, in a greater
one if it is longer, and at last in all of it. -/
def nextLine (world : World) (number : Nat) (raw : Bool) : List Nat → List Bit × Nat × Bool
  | [] => incomingLine raw 0 ((world.remaining number).toOption.getD [])
  | bound :: bounds =>
    let text := (world.remaining number (some bound)).toOption.getD []
    let (bits, count, isEnded) := incomingLine raw 0 text
    if isEnded || text.length < bound then (bits, count, isEnded) else nextLine world number raw bounds

/-- Reads a line into variables. -/
def readLine (words : List Octets) : Action Nat := do
  let (given, names) ← options "p:r" words
  if names.isEmpty then Action.refuse "arg count".toList
  let shell ← get
  let (bits, count, ended) := match shell.inherited.stream? 0 with
    | some number => nextLine shell.world number (given.any (·.1 == 'r')) [0x80, 0x400, 0x2000]
    | none => ([], 0, false)
  if let some number := shell.inherited.stream? 0 then
    let later := shell.world.advance number count
    set { shell with world := if ended then later else later.starve number }
    if (← get).world.halt.isSome then throw .stuck
  let fields := Bit.fields shell.separators (some names.length) (.range false :: bits)
  for (name, value) in names.zip (fields ++ List.replicate names.length []) do
    Action.assignChecked name (Mark.text value)
  return if ended then 0 else 1

/-- Reads the next option of words or of the parameters. -/
def getopts (words : List Octets) : Action Nat := do
  match words with
  | letters :: name :: operands =>
    let shell ← get
    let operands := if operands.isEmpty then shell.parameters else operands
    let start := shell.nextOption
    let (start, within) := if operands.length + 1 < start then (1, 0) else (start, shell.within)
    let before := if within = 0 || start ≤ 1 then [] else ((operands[start - 2]?).getD []).drop within
    let (index, rest) ← pure <| if before.isEmpty then
        match operands[start - 1]? with
        | some ('-' :: c :: more) => (start + 1, if c :: more = ['-'] then [] else c :: more)
        | _ => (start, [])
      else (start, before)
    let quiet := letters.head? == some ':'
    match rest with
    | [] =>
      settle name '?' index 0
      return 1
    | c :: more =>
      let behind := (operands[index - 2]?).getD []
      let here := if more.isEmpty then 0 else behind.length - more.length
      match letters.dropWhile (· != c) with
      | [] =>
        if quiet then Action.assign "OPTARG".toList [c]
        else
          let _ ← Action.write 2 ("Illegal option -".toList ++ [c, '\n'])
          modify fun shell => shell.withoutVariable "OPTARG".toList
        settle name '?' index here
        return 0
      | _ :: ':' :: _ =>
        if !more.isEmpty then
          Action.assign "OPTARG".toList more
          settle name c index 0
        else
          match operands[index - 1]? with
          | some value =>
            Action.assign "OPTARG".toList value
            settle name c (index + 1) 0
          | none =>
            if quiet then
              Action.assign "OPTARG".toList [c]
              settle name ':' index 0
            else
              let _ ← Action.write 2 ("No arg for -".toList ++ [c] ++ " option\n".toList)
              modify fun shell => shell.withoutVariable "OPTARG".toList
              settle name '?' index 0
        return 0
      | _ =>
        Action.assign "OPTARG".toList []
        settle name c index here
        return 0
  | _ => Action.refuse "Usage: getopts optstring var [arg...]".toList
where
  /-- Keeps the option that was found, and where to go on. -/
  settle (name : Octets) (c : Char) (index within : Nat) : Action Unit := do
    Action.assign "OPTIND".toList (Octets.ofNat index)
    modify fun shell => { shell with nextOption := index, within }
    Action.assignChecked name [c]

/-! Options and parameters. -/

/-- The letters and the names of the options of the shell. -/
def flags : List (Char × String) :=
  [('e', "errexit"), ('f', "noglob"), ('I', "ignoreeof"), ('i', "interactive"), ('m', "monitor"),
    ('n', "noexec"), ('s', "stdin"), ('x', "xtrace"), ('v', "verbose"), ('V', "vi"), ('E', "emacs"),
    ('C', "noclobber"), ('a', "allexport"), ('b', "notify"), ('u', "nounset"), ('p', "privileged"),
    ('\u0001', "nolog"), ('\u0002', "debug")]

/-- What stands among the options that are set, while a shell is started, before those of which it is not known yet. -/
def undecided : Char := '\u0000'

/-- Sets an option, or takes it back. -/
def setFlag (isOn : Bool) (flag : Char) : Action Unit :=
  modify fun shell =>
    let others := shell.flags.filter (· != flag)
    { shell with flags := if isOn then flag :: others else others }

/-- Sets options by letters, where `rest` holds the words that follow; the words that are left. -/
def setLetters (isOn : Bool) : Octets → List Octets → Action (List Octets)
  | [], rest => return rest
  | 'o' :: more, rest => do
    match rest with
    | [] =>
      let shell ← get
      let lines := flags.map fun (flag, name) =>
        if isOn then
          name.toList ++ List.replicate (16 - name.length) ' ' ++ (if shell.has flag then "on" else "off").toList
        else ("set " ++ if shell.has flag then "-o " else "+o ").toList ++ name.toList
      let head := if isOn then ["Current option settings".toList] else []
      let _ ← print ((head ++ lines).flatMap (· ++ ['\n']))
      setLetters isOn more []
    | name :: rest =>
      match flags.find? (·.2.toList == name) with
      | some (flag, _) =>
        setFlag isOn flag
        setLetters isOn more rest
      | none => Action.refuse ("Illegal option -o ".toList ++ name)
  | c :: more, rest => do
    if c.toNat > 2 && flags.any (·.1 == c) then
      setFlag isOn c
      setLetters isOn more rest
    else Action.refuse ("Illegal option -".toList ++ [c])

/-- Sets options, and the parameters if any are given. -/
def setOptions : Nat → List Octets → Action Unit
  | 0, _ => return ()
  | _ + 1, [] => return ()
  | fuel + 1, word :: rest => do
    match word with
    | ['-', '-'] => Action.setParameters rest
    | ['-'] =>
      setFlag false 'x'
      setFlag false 'v'
      if !rest.isEmpty then Action.setParameters rest
    | '-' :: letters => setOptions fuel (← setLetters true letters rest)
    | '+' :: letters => setOptions fuel (← setLetters false letters rest)
    | _ => Action.setParameters (word :: rest)

/-- Sets options and parameters, or lists the variables. -/
def setAll (words : List Octets) : Action Nat := do
  if words.isEmpty then listing "" (·.value.isSome)
  else
    setOptions (words.length + 1) words
    return 0

/-- Takes the first parameters away. -/
def shift (words : List Octets) : Action Nat := do
  let count ← match words with
    | word :: _ => Action.number word
    | [] => pure 1
  let parameters := (← get).parameters
  if count != 0 && (parameters.drop (count - 1)).isEmpty then Action.refuse "can't shift that many".toList
  Action.setParameters (parameters.drop count)
  return 0

/-! Signals. -/

/-- Sets what to do on signals, or lists it. -/
def trap (words : List Octets) : Action Nat := do
  let (_, words) ← options "" words
  match words with
  | [] =>
    let known := (← get).traps
    let lines := (List.range 65).flatMap fun n =>
      match known.find? (·.1 == n) with
      | some (_, action) => "trap -- ".toList ++ quoted action ++ ' ' :: Signal.nameOf n ++ ['\n']
      | none => []
    print lines
  | [name] => setTraps none [name]
  | action :: names =>
    if action.all Char.isDigit && (Signal.number? 0 action).isSome then setTraps none words
    else setTraps (if action = ['-'] then none else some action) names
where
  /-- Sets what to do on signals, until one of them is unknown. -/
  setTraps (action : Option Octets) : List Octets → Action Nat
    | [] => return 0
    | name :: rest => do
      match Signal.number? 0 name with
      | none =>
        let _ ← Action.write 2 ("trap: ".toList ++ name ++ ": bad trap\n".toList)
        return 1
      | some n =>
        modify fun shell =>
          let others := shell.traps.filter (·.1 != n)
          { shell with traps := action.elim others fun action => (n, action) :: others }
        setTraps action rest

/-- Reads or sets the permissions that new files do not get. -/
def umask (words : List Octets) : Action Nat := do
  let (given, words) ← options "S" words
  let shell ← get
  match words with
  | [] =>
    let digits := Integer.digits 8 shell.mask
    let octal := Real.padded 4 digits
    let shownFor := fun (shift : Nat) =>
      let kept := 7 - (shell.mask / Nat.pow 8 shift) % 8
      (if kept / 4 % 2 = 1 then ['r'] else []) ++ (if kept / 2 % 2 = 1 then ['w'] else []) ++
        (if kept % 2 = 1 then ['x'] else [])
    print ((if given.isEmpty then octal
      else "u=".toList ++ shownFor 2 ++ ",g=".toList ++ shownFor 1 ++ ",o=".toList ++ shownFor 0) ++ ['\n'])
  | word :: _ =>
    if word.all Format.isOctal then
      modify fun shell => { shell with mask := Integer.ofDigits 8 word % 512 }
      return 0
    else if word.all Char.isDigit then Action.refuse ("Illegal number: ".toList ++ word)
    else
      match symbolic shell.mask word with
      | some mask =>
        modify fun shell => { shell with mask }
        return 0
      | none => Action.refuse ("Illegal mode: ".toList ++ word)
where
  /-- The mask after changes by letters. -/
  symbolic (mask : Nat) (word : Octets) : Option Nat :=
    (Text.pieces ',' word).foldlM (fun mask clause => do
      let who := clause.takeWhile ("ugoa".toList.contains ·)
      let bits := fun (letters : Octets) =>
        (if letters.contains 'r' then 4 else 0) + (if letters.contains 'w' then 2 else 0) +
          (if letters.contains 'x' then 1 else 0)
      match clause.dropWhile ("ugoa".toList.contains ·) with
      | sign :: letters =>
        if !("+-=".toList.contains sign) || !(letters.all ("rwx".toList.contains ·)) then none
        else
          let change := fun (shift : Nat) (c : Char) (mask : Nat) =>
            let old := (mask / Nat.pow 8 shift) % 8
            if !(who.isEmpty || who.contains c || who.contains 'a') then mask
            else
              let kept := 7 - old
              let new := if sign = '=' then bits letters else if sign = '+' then kept ||| bits letters
                else kept &&& (7 - bits letters)
              mask - old * Nat.pow 8 shift + (7 - new) * Nat.pow 8 shift
          some (change 2 'u' (change 1 'g' (change 0 'o' mask)))
      | [] => none) mask

/-! Commands. -/

/-- The path of the program that a name without a slash stands for. -/
def find? (shell : Shell) (paths name : Octets) : Option Octets :=
  (Starter.candidates paths name).find? fun path => shell.world.node true path matches .ok (.file _ true)

/-- Why a name stands for no program: the last thing found at a path for it, if anything is. -/
def whyMissing (shell : Shell) (paths name : Octets) : Refusal :=
  (Starter.candidates paths name).foldl (fun why path =>
    match shell.world.node true path with
    | .ok _ => .denied
    | .error refusal => if refusal.isMissing then why else refusal) .notFound

/-- What is said about a command that cannot be run. -/
def wording (refusal : Refusal) : Octets :=
  (if refusal.isMissing then "not found" else refusal.wording).toList

/-- Where programs are looked for. -/
def paths (shell : Shell) : Octets :=
  (shell.value? Starter.pathsName).getD []

/-- Describes a command, `fully` or by what it is called; its code. -/
def describe (fully : Bool) (name : Octets) : Action Nat := do
  let shell ← get
  let word := String.ofList name
  let say := fun (short : Octets) (full : String) =>
    print ((if fully then name ++ full.toList else short) ++ ['\n'])
  if word ∈ Token.keywords then say name " is a shell keyword"
  else
    match shell.aliases.find? (·.1 == name) with
    | some (_, value) =>
      if fully then print (name ++ " is an alias for ".toList ++ value ++ ['\n'])
      else print ("alias ".toList ++ name ++ '=' :: quoted value ++ ['\n'])
    | none =>
      if name.contains '/' then
        match shell.world.node true name with
        | .ok _ => if fully then print (name ++ " is ".toList ++ name ++ ['\n']) else print (name ++ ['\n'])
        | .error _ => missing
      else if word ∈ Script.special then say name " is a special shell builtin"
      else if (shell.function? name).isSome then say name " is a shell function"
      else if word ∈ Builtin.regular then say name " is a shell builtin"
      else
        match find? shell (paths shell) name with
        | some path =>
          let middle := if shell.located.contains name then " is a tracked alias for " else " is "
          Action.remember name
          if fully then print (name ++ middle.toList ++ path ++ ['\n']) else print (path ++ ['\n'])
        | none => missing
where
  /-- Reports that there is no such command. -/
  missing : Action Nat := do
    if fully then
      let _ ← print (name ++ ": not found\n".toList)
    return 127

/-- Describes commands. -/
def type (words : List Octets) : Action Nat := do
  let codes ← words.mapM (describe true)
  return codes.foldl (· ||| ·) 0

/-- Looks programs up and remembers where they are, or lists those that are known. -/
def hash (words : List Octets) : Action Nat := do
  let (given, words) ← options "r" words
  if !given.isEmpty then
    modify fun shell => { shell with located := [] }
    return 0
  else if words.isEmpty then
    let shell ← get
    let found := shell.located.filterMap (find? shell (paths shell))
    print (found.flatMap (· ++ ['\n']))
  else
    let mut code := 0
    for name in words do
      let shell ← get
      match find? shell (paths shell) name with
      | some _ => Action.remember name
      | none =>
        if (shell.function? name).isNone && !(String.ofList name ∈ Script.special ++ regular) then
          Action.complain (name ++ ": ".toList ++ wording (whyMissing shell (paths shell) name))
          code := 1
    return code

/-- Sets aliases or lists them. -/
def setAliases (words : List Octets) : Action Nat := do
  let shell ← get
  if words.isEmpty then
    print ((Octets.sort (shell.aliases.map fun (name, value) => name ++ '=' :: quoted value)).flatMap
      (· ++ ['\n']))
  else
    let mut code := 0
    for word in words do
      match Octets.splitAt? '=' word with
      | some (name, value) =>
        modify fun shell =>
          { shell with aliases := shell.aliases.filter (·.1 != name) ++ [(name, value)] }
      | none =>
        match (← get).aliases.find? (·.1 == word) with
        | some (name, value) =>
          let _ ← print (name ++ '=' :: quoted value ++ ['\n'])
        | none =>
          let _ ← Action.write 2 ("alias: ".toList ++ word ++ " not found\n".toList)
          code := 1
    return code

/-- Removes aliases. -/
def removeAliases (words : List Octets) : Action Nat := do
  let (given, words) ← options "a" words
  if !given.isEmpty then
    modify fun shell => { shell with aliases := [] }
    return 0
  else
    let mut code := 0
    for word in words do
      if (← get).aliases.any (·.1 == word) then
        modify fun shell => { shell with aliases := shell.aliases.filter (·.1 != word) }
      else
        let _ ← Action.write 2 ("unalias: ".toList ++ word ++ " not found\n".toList)
        code := 1
    return code

/-- Tests a condition. -/
def test (words : List Octets) : Action Nat := do
  if Memory.size < Memory.condition * Condition.nesting words then Action.overflow
  match Condition.ofShell (← get).world words with
  | .ok holds => return if holds then 0 else 1
  | .error mistake => Action.refuse mistake.message

/-- Leaves a number of loops, or goes on with the next round of the last of them. -/
def leave (goesOn : Bool) (words : List Octets) : Action Nat := do
  let count ← match words with
    | word :: _ => do
      let n ← Action.number word
      if n = 0 then Action.refuse ("Illegal number: ".toList ++ word)
      pure n
    | [] => pure 1
  let count := min count (← get).loops
  if count = 0 then return 0
  else throw (if goesOn then .resume count else .leave count)

/-- The code that a command ends something with. -/
def codeOf (words : List Octets) : Action Nat := do
  match words with
  | word :: _ => Action.number word
  | [] => return (← get).status

/-- Shows how much of something can be had. -/
def ulimit (words : List Octets) : Action Nat := do
  let _ ← options "HSacdflmnprstvw" words
  print "unlimited\n".toList

/-- What a builtin command does that runs no script; its code. -/
def run? (name : String) (words : List Octets) : Option (Action Nat) :=
  match name with
  | ":" | "true" => some (return 0)
  | "false" => some (return 1)
  | "echo" => some (echo words)
  | "printf" => some (printf words)
  | "cd" | "chdir" => some (cd words)
  | "pwd" => some (pwd words)
  | "export" => some (exporting words)
  | "readonly" => some (protecting words)
  | "local" => some do
    if (← get).calls = 0 then Action.refuse "not in a function".toList
    conceal words
    return 0
  | "unset" => some (unset words)
  | "read" => some (readLine words)
  | "getopts" => some (getopts words)
  | "set" => some (setAll words)
  | "shift" => some (shift words)
  | "trap" => some (trap words)
  | "umask" => some (umask words)
  | "type" => some (type words)
  | "hash" => some (hash words)
  | "alias" => some (setAliases words)
  | "unalias" => some (removeAliases words)
  | "test" => some (test words)
  | "[" => some do
    if (words.getLast?.bind (·.head?)) = some ']' then test words.dropLast else Action.refuse "missing ]".toList
  | "break" => some (leave false words)
  | "continue" => some (leave true words)
  | "return" => some do throw (.back (← codeOf words) !words.isEmpty)
  | "exit" => some do
    let code ← codeOf words
    let shell ← get
    throw (.exit (if words.isEmpty then shell.interrupted.getD code else code))
  | "times" => some (print "0m0.000000s 0m0.000000s\n0m0.000000s 0m0.000000s\n".toList)
  | "ulimit" => some (ulimit words)
  | _ => none

end PreMerge.Host.Builtin
