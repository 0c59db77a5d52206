import PreMerge.Host.Condition
import PreMerge.Host.Format
import PreMerge.Host.Options
import PreMerge.Host.Process
import PreMerge.Host.Quoting

/-! The programs of the host: what they print, what they do to files, and the codes they exit with. -/

namespace PreMerge.Host.Program

/-- The names of the programs. -/
def names : List String :=
  ["[", "cat", "dash", "echo", "env", "false", "printf", "pwd", "rm", "sh", "test", "true"]

/-- What stands in the file of a program, which is no script. -/
def content : ByteArray :=
  "\u007fELF)\n".toUTF8

/-- What escapes in the words of `echo` stand for; none if one of them ends the printing. -/
def echoed : Nat → Octets → Octets × Bool
  | 0, _ => ([], false)
  | _ + 1, [] => ([], false)
  | _ + 1, ['\\'] => (['\\'], false)
  | _ + 1, '\\' :: 'c' :: _ => ([], true)
  | fuel + 1, '\\' :: c :: rest =>
    let (text, later) : Octets × Octets :=
      match Format.letter? c with
      | some char => ([char], rest)
      | none =>
        let digits := (rest.take 2).takeWhile (Integer.isDigit 16)
        if c = 'x' && digits != [] then (Format.ofCode (Integer.ofDigits 16 digits), rest.drop digits.length)
        else if c = '0' then Format.octal rest
        else if Format.isOctal c then Format.octal (c :: rest)
        else (['\\', c], rest)
    let (texts, ends) := echoed fuel later
    (text ++ texts, ends)
  | fuel + 1, c :: rest =>
    let (texts, ends) := echoed fuel rest
    (c :: texts, ends)

/-- Prints words with blanks between them, and the end of a line. Options change whether there is one, and
whether escapes count. -/
def echo (words : List Octets) : Process Nat :=
  let isOption := fun (word : Octets) => match word with
    | '-' :: c :: more => (c :: more).all ("neE".toList.contains ·)
    | _ => false
  let letters := (words.takeWhile isOption).flatten
  let text := Octets.join [' '] (words.dropWhile isOption)
  let withEscapes := (letters.filter ("eE".toList.contains ·)).getLast? == some 'e'
  let (text, ends) := if withEscapes then echoed (text.length + 1) text else (text, false)
  Process.print (if ends || letters.contains 'n' then text else text ++ ['\n'])

/-- Prints the parts of a formatted text, complaints apart from texts. -/
def printParts : List (Octets ⊕ Octets) → Process Bool
  | [] => return true
  | .inl text :: rest => do
    let done ← Process.write 1 text
    let others ← printParts rest
    return done && others
  | .inr why :: rest => do
    Process.complain why
    printParts rest

/-- Prints words by a format. -/
def printf (words : List Octets) : Process Nat := do
  match if words.head? = some "--".toList then words.drop 1 else words with
  | [] =>
    Process.complain "missing operand".toList
    Process.suggestHelp
    return 1
  | format :: operands =>
    let printed := Format.print .program format operands
    let done ← printParts printed.parts
    if let some why := printed.mistake then Process.complain why
    if !done then Process.complainOfPrinting
    return if printed.failed || !done then 1 else 0

/-- How files are shown. -/
structure Showing where
  numbered : Bool := false
  onlyFull : Bool := false
  squeezed : Bool := false
  ends : Bool := false
  tabs : Bool := false
  hidden : Bool := false

namespace Showing

/-- The letters of options, and their names. -/
def options : List (String × Char) :=
  [("number-nonblank", 'b'), ("number", 'n'), ("squeeze-blank", 's'), ("show-nonprinting", 'v'),
    ("show-ends", 'E'), ("show-tabs", 'T'), ("show-all", 'A'), ("help", 'h'), ("version", 'V')]

/-- One more option. -/
def add (showing : Showing) (given : Given) : Showing :=
  match given.letter with
  | 'A' => { showing with hidden := true, ends := true, tabs := true }
  | 'b' => { showing with numbered := true, onlyFull := true }
  | 'e' => { showing with hidden := true, ends := true }
  | 'E' => { showing with ends := true }
  | 'n' => { showing with numbered := true }
  | 's' => { showing with squeezed := true }
  | 't' => { showing with hidden := true, tabs := true }
  | 'T' => { showing with tabs := true }
  | 'v' => { showing with hidden := true }
  | _ => showing

/-- How a character of a line is shown. -/
def char (showing : Showing) (c : Char) : Octets :=
  if c = '\t' then if showing.tabs then "^I".toList else [c]
  else if !showing.hidden then [c]
  else
    let low := if c.toNat < 128 then c.toNat else c.toNat - 128
    let mark := if c.toNat < 128 then [] else "M-".toList
    mark ++ (if low < 32 then ['^', Char.ofNat (low + 64)] else if low = 127 then "^?".toList
      else [Char.ofNat low])

/-- The number of a line. -/
def number (n : Nat) : Octets :=
  let digits := Octets.ofNat n
  List.replicate (6 - digits.length) ' ' ++ digits ++ ['\t']

/-- A text as it is shown, with the number of the last line and the count of line ends in a row before the
text, one less if the first of them ends a line that is not empty. -/
def text (showing : Showing) : Nat → Int → Octets → Octets × Nat × Int
  | last, ends, [] => ([], last, ends)
  | last, ends, c :: rest =>
    if c = '\n' then
      let ends := ends + 1
      if 2 ≤ ends && showing.squeezed then text showing last 2 rest
      else
        let isNumbered := 0 < ends && showing.numbered && !showing.onlyFull
        let last := if isNumbered then last + 1 else last
        let start := (if isNumbered then number last else []) ++ (if showing.ends then ['$'] else [])
        let (shown, later) := text showing last ends rest
        (start ++ '\n' :: shown, later)
    else
      let isNumbered := 0 ≤ ends && showing.numbered
      let last := if isNumbered then last + 1 else last
      let (shown, later) := text showing last (-1) rest
      ((if isNumbered then number last else []) ++ showing.char c ++ shown, later)

end Showing

/-- What comes in from the file of a name, or on the stream. -/
def incoming (name : Octets) : Process (Except String Octets) := do
  if name = ['-'] then Process.input
  else
    let world ← get
    match (← read).openFile world false .input name with
    | .error refusal => return .error refusal.wording
    | .ok (later, number) =>
      if number < world.opened.size then
        match later.readAll number with
        | .error why => return .error why
        | .ok (text, later) =>
          set later
          return .ok text
      else
        match later.readAll number with
        | .error why => return .error why
        | .ok (text, later) =>
          set { world with halt := later.halt }
          return .ok text

/-- Whether a file that is read is the one that is written to. -/
def readsItself (name : Octets) : Process Bool := do
  let world ← get
  match (← read).stream? 1 with
  | none => return false
  | some number =>
    match (world.opened[number]?.map (·.leads) : Option Leads), world.locate true name with
    | some (.place place), .ok source => return place == source && name != ['-']
    | _, _ => return false

/-- Shows files one after another. -/
def catFiles (showing : Showing) : Nat → Int → List Octets → Process Bool
  | _, _, [] => return true
  | last, ends, name :: rest => do
    match ← incoming name with
    | .error why =>
      Process.complain (Quoting.named name ++ ": ".toList ++ why.toList)
      let _ ← catFiles showing last ends rest
      return false
    | .ok content =>
      if content != [] && (← readsItself name) then
        Process.complain (Quoting.named name ++ ": input file is output file".toList)
        let _ ← catFiles showing last ends rest
        return false
      else
        let (shown, last, ends) := showing.text last ends content
        let done ← Process.write 1 shown
        if !done then Process.complainOfPrinting
        let others ← catFiles showing last ends rest
        return done && others

/-- Shows files. -/
def cat (words : List Octets) : Process Nat := do
  match Options.read "AbeEnstTuv".toList Showing.options [] words with
  | .error mistake =>
    Process.complain mistake.message
    Process.suggestHelp
    return 1
  | .ok (options, names) =>
    let names := if names.isEmpty then [['-']] else names
    let own ← read
    if (own.stream? 1).isNone then
      Process.complain ("standard output: " ++ badStream).toList
      return 1
    else
      let done ← catFiles (options.foldl Showing.add {}) 0 0 names
      if names.contains ['-'] && (own.stream? 0).isNone then
        Process.complain ("closing standard input: " ++ badStream).toList
        return 1
      else return if done then 0 else 1

/-- When a removal is asked for. -/
inductive Asking
  | never
  | once
  | always
  deriving DecidableEq, Repr

/-- How files are removed. -/
structure Removal where
  force : Bool := false
  recursive : Bool := false
  emptyDirectories : Bool := false
  verbose : Bool := false
  asking : Asking := .never

namespace Removal

/-- The names of options. -/
def options : List (String × Char) :=
  [("force", 'f'), ("interactive", 'j'), ("one-file-system", 'o'), ("no-preserve-root", 'n'),
    ("preserve-root", 'p'), ("recursive", 'r'), ("dir", 'd'), ("verbose", 'v'), ("help", 'h'),
    ("version", 'V'), ("-presume-input-tty", 't')]

/-- The words that say when a removal is asked for. -/
def answers : List (String × Asking) :=
  [("never", .never), ("no", .never), ("none", .never), ("once", .once), ("always", .always), ("yes", .always)]

/-- What a word, which may be cut short, says about when a removal is asked for. -/
def answer (word : Octets) : Except Octets Asking :=
  match answers.filter fun (answer, _) => (Octets.after? word answer.toList).isSome with
  | [] => .error (mistake "invalid")
  | (_, first) :: others =>
    if others.all (·.2 = first) then .ok first else .error (mistake "ambiguous")
where
  /-- What is said about another word. -/
  mistake (what : String) : Octets :=
    (what ++ " argument ").toList ++ Quoting.message word ++ " for '--interactive'\n".toList ++
      "Valid arguments are:\n  - 'never', 'no', 'none'\n  - 'once'\n  - 'always', 'yes'".toList

/-- Why options of a removal are refused. -/
structure Objection where
  why : Octets
  /-- Whether help is suggested. -/
  helps : Bool

/-- One more option. -/
def add (removal : Removal) (given : Given) : Except Objection Removal :=
  match given.letter with
  | 'd' => .ok { removal with emptyDirectories := true }
  | 'f' => .ok { removal with force := true, asking := .never }
  | 'i' => .ok { removal with force := false, asking := .always }
  | 'I' => .ok { removal with force := false, asking := .once }
  | 'j' =>
    match answer (given.value.getD "always".toList) with
    | .ok .never => .ok { removal with asking := .never }
    | .ok asking => .ok { removal with force := false, asking }
    | .error why => .error ⟨why, true⟩
  | 'p' =>
    match given.value with
    | none => .ok removal
    | some value =>
      if value = "all".toList then .ok removal
      else .error ⟨"unrecognized --preserve-root argument: ".toList ++ Quoting.shell true value, false⟩
  | 'r' | 'R' => .ok { removal with recursive := true }
  | 'v' => .ok { removal with verbose := true }
  | _ => .ok removal

/-- Asks a question; whether the answer is yes. -/
def ask (question : Octets) : Process Bool := do
  let _ ← Process.write 2 ((← read).name ++ ": ".toList ++ question ++ "? ".toList)
  match ← Process.inputLine? with
  | some (c :: _) => return c == 'y' || c == 'Y'
  | _ => return false

/-- Complains that something cannot be removed. -/
def refuse (name : Octets) (why : String) : Process Bool := do
  Process.complain ("cannot remove ".toList ++ Quoting.shell true name ++ ": ".toList ++ why.toList)
  return false

/-- What a node is called in a question. -/
def kind : Node → String
  | .file content _ => if content.isEmpty then "regular empty file" else "regular file"
  | .link _ => "symbolic link"
  | .directory _ => "directory"

/-- Removes what is at a place, if no question is answered with no. A directory that a link leads to stays. -/
def removeNode (removal : Removal) (linked : Bool) (place : List String) (name : Octets) (node : Node) :
    Process Bool := do
  let agreed ← if removal.asking = .always then
      ask (("remove " ++ kind node ++ " ").toList ++ Quoting.shell true name)
    else pure true
  if !agreed then return true
  else if linked then
    if removal.force then return true else refuse name Refusal.notDirectory.wording
  else
    modify fun world => world.erase place
    if removal.verbose then
      let what := match node with
        | .directory _ => "removed directory "
        | _ => "removed "
      let _ ← Process.write 1 (what.toList ++ Quoting.shell true name ++ ['\n'])
    return true

/-- Removes what is at a place, and before a directory what is in it. -/
def removeAll (removal : Removal) : Nat → Bool → List String → Octets → Node → Process Bool
  | 0, _, _, _, _ => return false
  | fuel + 1, linked, place, name, node => do
    match node with
    | .directory entries =>
      let names := Node.names entries
      if names.isEmpty then removeNode removal linked place name node
      else
        let agreed ← if removal.asking = .always then
            ask ("descend into directory ".toList ++ Quoting.shell true name)
          else pure true
        if !agreed then return true
        else
          let done ← names.mapM fun inner => do
            match Node.find? inner entries with
            | some child =>
              let longer := if name.getLast? = some '/' then name else name ++ ['/']
              removeAll removal fuel false (place ++ [inner]) (longer ++ Octets.ofString inner) child
            | none => return true
          match (← get).tree.root.at? place with
          | some (.directory []) =>
            let last ← removeNode removal linked place name (.directory [])
            return last && done.all id
          | _ =>
            if done.all id && removal.asking = .always then return true
            else refuse name Refusal.notEmpty.wording
    | _ => removeNode removal linked place name node

/-- Whether a name is that of a directory itself or of the one above. -/
def isDots (name : Octets) : Bool :=
  let last := (World.splitName (name.reverse.dropWhile (· == '/')).reverse).2
  last == ['.'] || last == ['.', '.']

/-- A name with at most one slash at its end. -/
def tidy (name : Octets) : Octets :=
  let bare := (name.reverse.dropWhile (· == '/')).reverse
  if name.length ≤ 2 || bare.length + 1 ≥ name.length then name else bare ++ ['/']

/-- Removes what a name leads to. -/
def remove (removal : Removal) (given : Octets) : Process Bool := do
  let world ← get
  let name := tidy given
  let bare := (name.reverse.dropWhile (· == '/')).reverse
  let linked := name != bare && (world.node false bare matches .ok (.link _))
  match world.node false name, world.locate false name with
  | .ok node, .ok place =>
    match node with
    | .directory entries =>
      let isFull := !(Node.names entries).isEmpty
      if !removal.recursive && !(removal.emptyDirectories && !isFull) then
        refuse name (if removal.emptyDirectories then Refusal.notEmpty.wording else Refusal.isDirectory.wording)
      else if isDots name then
        Process.complain ("refusing to remove '.' or '..' directory: skipping ".toList ++
          Quoting.shell true name)
        return false
      else if place = [] then
        Process.complain "it is dangerous to operate recursively on '/'".toList
        Process.complain "use --no-preserve-root to override this failsafe".toList
        return false
      else removeAll removal (node.weight + 2) linked place name node
    | _ => removeNode removal linked place name node
  | .error refusal, _ | _, .error refusal =>
    if removal.force && refusal.isMissing then return true
    else refuse name (if linked then Refusal.notDirectory else refusal).wording

/-- The removal that options ask for. The failsafe for the root has to be called by its full name. -/
def ofOptions (words : List Octets) (options : List Given) : Except Objection Removal :=
  let isCut := fun (word : Octets) =>
    (Octets.after? "--n".toList word).isSome && word != "--no-preserve-root".toList
  if (words.takeWhile (· != "--".toList)).any isCut then
    .error ⟨"you may not abbreviate the --no-preserve-root option".toList, false⟩
  else options.foldlM add {}

/-- Removes what several names lead to. -/
def removeEach (removal : Removal) (names : List Octets) : Process Nat := do
  let count := names.length
  let agreed ← if removal.asking = .once && (removal.recursive || 3 < count) then
      ask ("remove ".toList ++ Octets.ofNat count ++
        (if count = 1 then " argument" else " arguments").toList ++
        (if removal.recursive then " recursively" else "").toList)
    else pure true
  if !agreed then return 0
  else
    let before := (← get).tree.root.weight
    let done ← names.mapM removal.remove
    let world ← get
    if removal.verbose && world.tree.root.weight < before && ((← read).write world 1 ['\n']).isNone then
      Process.complainOfPrinting
      return 1
    else return if done.all id then 0 else 1

end Removal

/-- Removes files. -/
def rm (words : List Octets) : Process Nat := do
  match Options.read "dfiIrRv".toList Removal.options ["interactive", "preserve-root"] words with
  | .error mistake =>
    Process.complain mistake.message
    let world ← get
    let isFile := fun (word : Octets) =>
      word.head? == some '-' && word.length != 1 && (world.node false word matches .ok _)
    if let some word := words.find? isFile then suggest word
    Process.suggestHelp
    return 1
  | .ok (options, names) =>
    match Removal.ofOptions words options with
    | .error objection => refused objection.why objection.helps
    | .ok removal =>
      if !names.isEmpty then removal.removeEach names
      else if removal.force then return 0
      else refused "missing operand".toList true
where
  /-- Says how a file is removed that is called like an option. -/
  suggest (word : Octets) : Process Unit := do
    let _ ← Process.write 2 ("Try '".toList ++ (← read).name ++ " ./".toList ++ Quoting.shell false word ++
      "' to remove the file ".toList ++ Quoting.shell true word ++ ".\n".toList)
  /-- Says why nothing is removed. -/
  refused (why : Octets) (helps : Bool) : Process Nat := do
    Process.complain why
    if helps then Process.suggestHelp
    return 1

/-- Prints the working directory. -/
def pwd (words : List Octets) : Process Nat := do
  match Options.read "LP".toList [("logical", 'L'), ("physical", 'P'), ("help", 'h'), ("version", 'V')] []
    words with
  | .error mistake =>
    Process.complain mistake.message
    Process.suggestHelp
    return 1
  | .ok (options, operands) =>
    if !operands.isEmpty then Process.complain "ignoring non-option arguments".toList
    let world ← get
    let physical := "/".toList ++ Octets.join ['/'] (world.tree.here.map Octets.ofString)
    let shown := ((← read).environment.find? (·.1 == "PWD".toList)).map (·.2)
    let isLogical := (options.getLast?.map (·.letter)) == some 'L'
    let text := match shown with
      | some shown => if isLogical && world.namesHere shown then shown else physical
      | none => physical
    Process.print (text ++ ['\n'])

/-- Tests a condition, which may stand in front of a word. -/
def test (closing : Option Octets) (words : List Octets) : Process Nat := do
  match Condition.ofProgram (← get) closing words with
  | .ok holds => return if holds then 0 else 1
  | .error mistake =>
    Process.complain mistake.programMessage
    return 2

/-- What a program does that is neither the shell nor starts another one. -/
def run? (name : String) (words : List Octets) : Option (Process Nat) :=
  match name with
  | "true" => some (return 0)
  | "false" => some (return 1)
  | "echo" => some (echo words)
  | "printf" => some (printf words)
  | "cat" => some (cat words)
  | "rm" => some (rm words)
  | "pwd" => some (pwd words)
  | "test" => some (test none words)
  | "[" =>
    if words.getLast? = some [']'] then some (test (some [']']) words.dropLast)
    else some do
      Process.complain "missing ']'".toList
      return 2
  | _ => none

end PreMerge.Host.Program
