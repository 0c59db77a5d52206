import PreMerge.Host.Arithmetic
import PreMerge.Host.Memory
import PreMerge.Host.Shell.Fields
import PreMerge.Host.Shell.State

/-! How words are expanded: parameters, the output of scripts and expressions are put in, the result is split
into fields at the separators, and fields that are patterns become the names of files. -/

namespace PreMerge.Host

/-! Parameters. -/

namespace Shell

/-- The options in the order in which they are listed. -/
def flagOrder : List Char :=
  "pubaCEVxvsnmiIfe".toList

/-- The value of a parameter that is called by one sign or by a number. -/
def special? (shell : Shell) (name : Octets) : Option Octets :=
  match name with
  | ['#'] => some (Octets.ofNat shell.parameters.length)
  | ['?'] => some (Octets.ofNat shell.status)
  | ['-'] => some (flagOrder.filter shell.has)
  | ['$'] => some (Octets.ofNat shell.main)
  | ['!'] => shell.lastStarted.map Octets.ofNat
  | _ =>
    match Integer.ofDigits 10 name with
    | 0 => some shell.name
    | n + 1 => shell.parameters[n]?

/-- The value of a parameter other than all of them. -/
def parameter? (shell : Shell) (name : Octets) : Option Value :=
  match name with
  | c :: _ =>
    if Octets.startsName c then (shell.lookUp? name).bind (·.value) else (shell.special? name).map .plain
  | [] => none

/-- Whether a name stands for all parameters. -/
def isAll (name : Octets) : Bool :=
  name == ['@'] || name == ['*']

/-- The home of a user; the one who runs the shell has no name. -/
def home? (shell : Shell) (user : Octets) : Option Octets :=
  if user = [] then shell.value? "HOME".toList
  else if user = "root".toList then some "/root".toList
  else none

end Shell

namespace Expansion

/-- The bits of an unquoted text. At the start of a word, and behind a colon where a value is assigned, a tilde
stands for the home of a user. `isLast` tells whether the word ends with the text. -/
def tilded (shell : Shell) (assigns splits isLast : Bool) : Nat → Bool → Octets → List Bit
  | 0, _, _ => []
  | _ + 1, _, [] => []
  | fuel + 1, mayStart, c :: rest =>
    let plain := Bit.cons c false splits (tilded shell assigns splits isLast fuel (assigns && c == ':') rest)
    if mayStart && c == '~' then
      let ends := fun c => c == '/' || (assigns && c == ':')
      let user := rest.takeWhile (!ends ·)
      let later := rest.dropWhile (!ends ·)
      if later.isEmpty && !isLast then plain
      else
        match shell.home? user with
        | some home => Bit.ofText true false home ++ tilded shell assigns splits isLast fuel false later
        | none => plain
    else plain

/-- The bits of all parameters. In `full` words they are fields of their own, unless they are quoted and called
by the star. -/
def ofAll (shell : Shell) (full quoted : Bool) (name : Octets) (values : List Octets) : List Bit :=
  if full && (!quoted || name == ['@']) then if values.isEmpty then [] else Bit.ofValues quoted values
  else Bit.ofValue quoted (Octets.join shell.joint values)

/-- The value of a variable as a number. -/
def numberOf (name : Octets) : Action Int := do
  let value := ((← get).value? name).getD []
  match Integer.whole? Integer.read value with
  | some n =>
    if Integer.least ≤ n && n ≤ Integer.greatest then return n
    else Action.refuse ("Illegal number: ".toList ++ value)
  | none =>
    if value.all Octets.isBlank then return 0 else Action.refuse ("Illegal number: ".toList ++ value)

/-- Reports a mistake in an expression. -/
def refuseExpression {α : Type} (text : Octets) (mistake : Arithmetic.Mistake) : Action α :=
  Action.refuse ("arithmetic expression: ".toList ++ mistake.message ++ ": \"".toList ++ text ++ ['"'])

/-- What an expression comes to. -/
def calculate (text : Octets) : Action Octets := do
  if Memory.size < Memory.parenthesis * Arithmetic.Expression.nesting text then Action.overflow
  let keep := fun name n => Action.assign name (Octets.ofInt n)
  let expression := Arithmetic.Expression.ofText text
  return Octets.ofInt (← expression.evaluate numberOf keep (refuseExpression text))

/-- A value without what a pattern stands for at one of its ends, if that is there. -/
def trimmed? (atEnd longest : Bool) (pattern : List Pattern.Part) (value : Octets) : Option Octets :=
  if atEnd then (Pattern.rest? longest pattern.reverse value.reverse).map List.reverse
  else Pattern.rest? longest pattern value

/-- A value without what a pattern stands for at one of its ends. -/
def trimmed (atEnd longest : Bool) (pattern : List Pattern.Part) (value : Octets) : Octets :=
  (trimmed? atEnd longest pattern value).getD value

/-- All parameters without what a pattern stands for at one end of them. At the start it is sought in the first
of them, and at the end from the last one on, the longest one in the first only; what follows the cut is lost. -/
def trimmedAll (atEnd longest : Bool) (pattern : List Pattern.Part) : List Octets → List Octets
  | [] => []
  | first :: rest =>
    match atEnd, longest with
    | false, true =>
      if Pattern.accepts pattern first then [[]] else trimmed false true pattern first :: rest
    | false, false => trimmed false false pattern first :: rest
    | true, true => if endsIn first then [trimmed true true pattern first] else first :: rest
    | true, false => cutLast (first :: rest)
where
  /-- Whether the pattern stands for an end of a text. -/
  endsIn (value : Octets) : Bool :=
    (trimmed? true false pattern value).isSome
  /-- The parameters up to the last one that ends in what the pattern stands for. -/
  cutLast (values : List Octets) : List Octets :=
    match values.reverse.dropWhile (!endsIn ·) with
    | [] => values
    | last :: before => before.reverse ++ [trimmed true false pattern last]

/-- A text without the ends of lines at its end. -/
def withoutLastLines (text : Octets) : Octets :=
  if text.getLast? = some '\n' then (text.reverse.dropWhile (· == '\n')).reverse else text

mutual

/-- The bits of the parts of a word. `full` words are split into fields; `splits` says whether this is so also
for their unquoted text. -/
def expand (substitute : Script → Action Octets) (full splits assigns : Bool) (mayStart : Bool) :
    List Piece → Action (List Bit)
  | [] => return []
  | .parameter quoted name (.last word) :: _ => do
    let bits ← expandChange substitute full quoted name (.last word)
    return bits ++ (← expand substitute full splits assigns false word)
  | piece :: rest => do
    let bits ← match piece with
      | .text false text => do
        let bits := tilded (← get) assigns splits rest.isEmpty (text.length + 1) mayStart text
        pure (if splits then .range false :: bits else bits)
      | piece => expandPiece substitute full splits piece
    let later := match piece with
      | .text false text => assigns && text.getLast? == some ':'
      | _ => false
    return bits ++ (← expand substitute full splits assigns later rest)

/-- The bits of a part of a word. -/
def expandPiece (substitute : Script → Action Octets) (full splits : Bool) : Piece → Action (List Bit)
  | .text quoted text =>
    return if quoted && text.isEmpty then [.void] else Bit.ofText quoted (splits && !quoted) text
  | .parameter quoted name change => expandChange substitute full quoted name change
  | .output quoted script => do
    let text ← substitute script
    return Bit.ofValue quoted (withoutLastLines text.withoutNulls)
  | .value quoted expression => do
    let bits ← expand substitute false false false false expression
    return Bit.ofValue quoted (← calculate (Bit.text bits))
  | .mistaken => Action.refuse "Bad substitution".toList

/-- The bits of a parameter after a change. -/
def expandChange (substitute : Script → Action Octets) (full quoted : Bool) (name : Octets) :
    Change → Action (List Bit)
  | .asIs => do
    let shell ← get
    if Shell.isAll name then return ofAll shell full quoted name shell.parameters
    else return Bit.ofParameter quoted (← demanded name)
  | .length => do
    let shell ← get
    if Shell.isAll name then
      return Bit.ofValue quoted (Octets.ofNat (Octets.join shell.joint shell.parameters).length)
    else return Bit.ofValue quoted (Octets.ofNat (← demanded name).text.length)
  | .default orEmpty word => do
    match ← present? orEmpty name with
    | some bits => instead bits
    | none => instead (← expand substitute full (!quoted) false true word)
  | .instead orEmpty word => do
    match ← present? orEmpty name with
    | some _ => instead (← expand substitute full (!quoted) false true word)
    | none => instead []
  | .assign orEmpty word => do
    match ← present? orEmpty name with
    | some bits => instead bits
    | none =>
      let value := Bit.text (← expand substitute false false true true word)
      Action.assignChecked name value
      return Bit.ofValue quoted value
  | .demand orEmpty word => do
    match ← present? orEmpty name with
    | some bits => instead bits
    | none =>
      let why := Bit.text (← expand substitute false false false true word)
      let usual := if orEmpty then "parameter not set or null" else "parameter not set"
      Action.refuse (name ++ ": ".toList ++ if word.isEmpty then usual.toList else why)
  | .last _ => do
    match ← present? true name with
    | some bits => return bits
    | none => if (← get).has 'u' then Action.refuse (name ++ ": parameter not set".toList) else return []
  | .trim atEnd longest pattern => do
    let shell ← get
    if !Shell.isAll name && (shell.parameter? name).isNone then return Bit.ofParameter quoted (← demanded name)
    let marks := Bit.marks (← expand substitute false false false true pattern)
    let cut := trimmed atEnd longest (Pattern.ofMarks marks)
    if Shell.isAll name then
      let isOne := !full || (quoted && name == ['*'])
      let values := if isOne then [Octets.join shell.joint shell.parameters] else shell.parameters
      let bits := ofAll shell full quoted name (trimmedAll atEnd longest (Pattern.ofMarks marks) values)
      return if quoted && bits.isEmpty then [.void] else bits
    else return Bit.ofValue quoted (cut (← demanded name).text)
where
  /-- The value of a parameter, which some shells demand to have one. -/
  demanded (name : Octets) : Action Value := do
    let shell ← get
    match shell.parameter? name with
    | some value => return value
    | none => if shell.has 'u' then Action.refuse (name ++ ": parameter not set".toList) else return .plain []
  /-- The bits of a parameter, if it has a value. -/
  present? (orEmpty : Bool) (name : Octets) : Action (Option (List Bit)) := do
    let shell ← get
    if Shell.isAll name then
      let isMissing := orEmpty && (Octets.join shell.joint shell.parameters).isEmpty
      return if isMissing then none else some (ofAll shell full quoted name shell.parameters)
    else
      match shell.parameter? name with
      | some value => return if orEmpty && value.isEmpty then none else some (Bit.ofParameter quoted value)
      | none => return none
  /-- Bits in place of a value. -/
  instead (bits : List Bit) : Action (List Bit) :=
    return if quoted && bits.isEmpty then [.void] else bits

end

/-! Names of files. -/

/-- Marks up to the first slash, the slashes, and the marks behind them. -/
def step (marks : List Mark) : List Mark × Octets × List Mark :=
  let rest := marks.dropWhile (·.char != '/')
  (marks.takeWhile (·.char != '/'), Mark.text (rest.takeWhile (·.char == '/')), rest.dropWhile (·.char == '/'))

/-- The names in a directory, with those of itself and of the one above. -/
def namesIn (world : World) (directory : Octets) : List Octets :=
  match world.node true (if directory = [] then ['.'] else directory) with
  | .ok (.directory entries) => (Node.names entries).map Octets.ofString ++ [['.'], ['.', '.']]
  | _ => []

/-- The characters of marks, without the backslashes that quote others. -/
def plainText : List Mark → Octets
  | [] => []
  | [mark] => [mark.char]
  | mark :: next :: rest =>
    if mark.isBare '\\' then next.char :: plainText rest else mark.char :: plainText (next :: rest)

/-- The names of files that a pattern stands for, behind a directory. -/
def filesFrom (world : World) : Nat → Octets → List Mark → List Octets
  | 0, _, _ => []
  | fuel + 1, directory, marks =>
    let (part, slashes, later) := step marks
    let onward := fun (name : Octets) =>
      let path := directory ++ name ++ slashes
      if slashes = [] then
        if (world.node false path).toOption.isSome then [path] else []
      else if later.isEmpty then
        if world.isDirectory path then [path] else []
      else filesFrom world fuel path later
    if Pattern.isProper part then
      let showsHidden := (plainText part).head? == some '.'
      let names := (namesIn world directory).filter fun name =>
        (showsHidden || name.head? != some '.') && Pattern.accepts (Pattern.ofMarks part) name
      names.flatMap onward
    else onward (plainText part)

/-- A field as the names of files that it stands for, if it is a pattern for some. -/
def files (world : World) (field : List Mark) : List Octets :=
  if Pattern.isProper field then
    match Octets.sort (filesFrom world (field.length + 1) [] field) with
    | [] => [Mark.text field]
    | names => names
  else [Mark.text field]

/-- The fields of a word, with patterns replaced by the names of files. -/
def fieldsOf (substitute : Script → Action Octets) (word : Word) : Action (List Octets) := do
  let bits ← expand substitute true false false true word
  let shell ← get
  let found := Bit.fields shell.separators none bits
  return if shell.has 'f' then found.map Mark.text else found.flatMap (files shell.world)

/-- The fields of words. -/
def allFields (substitute : Script → Action Octets) : List Word → Action (List Octets)
  | [] => return []
  | word :: rest => do
    let first ← fieldsOf substitute word
    return first ++ (← allFields substitute rest)

/-- The value that a word is for a variable. -/
def valueOf (substitute : Script → Action Octets) (word : Word) : Action Value := do
  return Bit.value (← expand substitute false false true true word)

/-- The text of a word, which stays one. -/
def textOf (substitute : Script → Action Octets) (assigns : Bool) (word : Word) : Action Octets := do
  return Bit.text (← expand substitute false false assigns true word)

/-- The marks of a word that is a pattern. -/
def patternOf (substitute : Script → Action Octets) (word : Word) : Action (List Mark) := do
  return Bit.marks (← expand substitute false false false true word)

end Expansion

end PreMerge.Host
