import PreMerge.Host.Quoting
import PreMerge.Host.World

/-! Conditions: what a command tests that is given operators and operands as its words. Two grammars are in
use for them, that of the shell and that of the program of its own. They agree where there is one way only
to read the words. -/

namespace PreMerge.Host

/-- Why a condition cannot be read. -/
inductive Condition.Mistake
  | misplaced (word : Octets)
  | needsOperand (operator : Octets)
  | unclosed
  | notNumber (word : Octets)
  /-- A word in the place of an operator on one operand, or on two. -/
  | notUnary (word : Octets)
  | notBinary (word : Octets)
  /-- A parenthesis that is not closed where this word is. -/
  | unclosedBefore (word : Octets)
  /-- An operator between files that was given a length. -/
  | noLength (operator : Octets)
  /-- What else may be wrong. -/
  | unreadable
  deriving DecidableEq, Repr

namespace Condition

/-- What a mistake is reported as. -/
def Mistake.message : Mistake → Octets
  | .misplaced word => about word "unexpected operator"
  | .needsOperand operator => about operator "argument expected"
  | .unclosed => "closing paren expected".toList
  | .notNumber word => "Illegal number: ".toList ++ word
  | _ => "syntax error".toList
where
  /-- A text about a word, if that is not empty. -/
  about (word : Octets) (text : String) : Octets :=
    (if word.isEmpty then [] else word ++ ": ".toList) ++ text.toList

/-- What the program reports a mistake as. -/
def Mistake.programMessage : Mistake → Octets
  | .misplaced word => "extra argument ".toList ++ Quoting.message word
  | .needsOperand word => "missing argument after ".toList ++ Quoting.message word
  | .unclosed => "')' expected".toList
  | .unclosedBefore word => "')' expected, found ".toList ++ Quoting.message word
  | .notNumber word => "invalid integer ".toList ++ Quoting.message word
  | .notUnary word => Quoting.message word ++ ": unary operator expected".toList
  | .notBinary word => Quoting.message word ++ ": binary operator expected".toList
  | .noLength operator => operator ++ " does not accept -l".toList
  | .unreadable => "missing argument".toList

/-- What a condition comes to, and the words after it. -/
abbrev Outcome :=
  Except Mistake (Bool × List Octets)

/-- The operators on one file. -/
def fileOperators : List Char :=
  "bcdefghkprsuwxLOGSN".toList

/-- Whether a file passes a test. The operator of the host may read and write everything. -/
def fileHolds (world : World) (operator : Char) (name : Octets) : Bool :=
  let node := world.node true name
  let isDevice := (world.locate true name).toOption.any World.isDevice
  match operator with
  | 'h' | 'L' => (world.node false name matches .ok (.link _))
  | 'd' => (node matches .ok (.directory _))
  | 'c' => isDevice
  | 'f' => !isDevice && (node matches .ok (.file _ _))
  | 'x' => (node matches .ok (.directory _)) || (node matches .ok (.file _ true))
  | 's' => match node with
    | .ok (.file content _) => !content.isEmpty
    | .ok (.directory _) => true
    | _ => false
  | 'e' | 'r' | 'w' | 'O' | 'G' => (node matches .ok _)
  | _ => false

/-- Whether two files are in a relation. All files are equally old, and older than these is what does not exist,
if anything is said of it. -/
def filesHold (world : World) (agesMissing : Bool) (operator : String) (left right : Octets) : Bool :=
  let first := (world.locate true left).toOption
  let second := (world.locate true right).toOption
  match operator with
  | "-ef" => first.isSome && first == second
  | "-nt" => agesMissing && first.isSome && second.isNone
  | _ => agesMissing && first.isNone && second.isSome

/-- Whether two numbers are in a relation. -/
def numbersHold (operator : String) (m n : Int) : Bool :=
  match operator with
  | "-eq" => m == n
  | "-ne" => m != n
  | "-lt" => m < n
  | "-le" => m ≤ n
  | "-gt" => n < m
  | _ => n ≤ m

/-- The operators on two numbers. -/
def numberOperators : List String :=
  ["-eq", "-ne", "-lt", "-le", "-gt", "-ge"]

/-- The operators on two files. -/
def filesOperators : List String :=
  ["-nt", "-ot", "-ef"]

/-- Whether a word is an operator on one operand. -/
def isUnary (word : Octets) : Bool :=
  match word with
  | ['-', c] => c == 'n' || c == 'z' || c == 't' || fileOperators.contains c
  | _ => false

/-- What an operator on one operand comes to. -/
def unary (world : World) (operator operand : Octets) : Bool :=
  match operator with
  | ['-', 'n'] => operand != []
  | ['-', 'z'] => operand == []
  | ['-', c] => fileHolds world c operand
  | _ => false

/-- What an operator on two operands comes to, if the operands suit it. -/
def binary (world : World) (agesMissing : Bool) (number? : Octets → Option Int) (left operator right : Octets) :
    Except Mistake Bool :=
  let operator := String.ofList operator
  if operator ∈ numberOperators then
    match number? left, number? right with
    | some m, some n => .ok (numbersHold operator m n)
    | none, _ => .error (.notNumber left)
    | _, none => .error (.notNumber right)
  else if operator ∈ filesOperators then .ok (filesHold world agesMissing operator left right)
  else match operator with
    | "=" | "==" => .ok (left == right)
    | "!=" => .ok (left != right)
    | "<" => .ok (Octets.before left right)
    | _ => .ok (Octets.before right left)

/-! The grammar of the shell. -/

/-- Whether a word is an operator of the shell on two operands. -/
def isShellBinary (word : Octets) : Bool :=
  let text := String.ofList word
  text ∈ numberOperators || text ∈ filesOperators || text ∈ ["=", "!=", "<", ">"]

/-- The number a word is to the shell. -/
def shellNumber? (word : Octets) : Option Int :=
  (Integer.whole? Integer.readDecimal word).filter fun n => Integer.least ≤ n && n ≤ Integer.greatest

/-- What the word at the start of others is. -/
inductive Role
  | ended
  | operand
  | unary
  | binary
  | negation
  | both
  | either
  | opening
  | closing
  deriving DecidableEq, Repr

/-- Whether the word at the start of others is an operand although it looks like an operator on one. -/
def isOperand : List Octets → Bool
  | [_, _] => false
  | _ :: next :: _ => isShellBinary next
  | _ => true

/-- The role of the word at the start of others. -/
def role : List Octets → Role
  | [] => .ended
  | word :: rest =>
    if isUnary word then if isOperand (word :: rest) then .operand else .unary
    else if isShellBinary word then .binary
    else match String.ofList word with
      | "!" => .negation
      | "-a" => .both
      | "-o" => .either
      | "(" => if rest = [] then .operand else .opening
      | ")" => .closing
      | _ => .operand

mutual

/-- Conditions of which one has to hold. -/
def anyOf (world : World) : Nat → Role → List Octets → Outcome
  | 0, _, _ => .error .unreadable
  | fuel + 1, first, words => do
    let (holds, rest) ← allOf world fuel first words
    match rest with
    | word :: more =>
      if role (word :: more) = .either then
        let (others, rest) ← anyOf world fuel (role more) more
        return (holds || others, rest)
      else return (holds, rest)
    | [] => return (holds, rest)

/-- Conditions all of which have to hold. -/
def allOf (world : World) : Nat → Role → List Octets → Outcome
  | 0, _, _ => .error .unreadable
  | fuel + 1, first, words => do
    let (holds, rest) ← negated world fuel first words
    match rest with
    | word :: more =>
      if role (word :: more) = .both then
        let (others, rest) ← allOf world fuel (role more) more
        return (holds && others, rest)
      else return (holds, rest)
    | [] => return (holds, rest)

/-- A condition behind any number of negations. -/
def negated (world : World) : Nat → Role → List Octets → Outcome
  | 0, _, _ => .error .unreadable
  | fuel + 1, first, words =>
    match first, words with
    | .negation, _ :: rest =>
      if rest = [] then .ok (true, [])
      else (negated world fuel (role rest) rest).map fun (holds, rest) => (!holds, rest)
    | _, _ => primary world fuel first words

/-- A condition without operators between conditions, except in parentheses. -/
def primary (world : World) : Nat → Role → List Octets → Outcome
  | 0, _, _ => .error .unreadable
  | fuel + 1, first, words =>
    match first, words with
    | .ended, _ | _, [] => .ok (false, words)
    | .opening, _ :: rest =>
      match role rest with
      | .closing => .ok (false, rest.tail)
      | next => do
        let (holds, rest) ← anyOf world fuel next rest
        if role rest = .closing then return (holds, rest.tail) else throw .unclosed
    | .unary, operator :: rest =>
      match rest with
      | operand :: rest =>
        if operator = ['-', 't'] && (shellNumber? operand).isNone then .error (.notNumber operand)
        else .ok (unary world operator operand, rest)
      | [] => .error (.needsOperand operator)
    | _, left :: rest =>
      match rest with
      | operator :: more =>
        if role rest = .binary then
          match more with
          | right :: more => (binary world false shellNumber? left operator right).map (·, more)
          | [] => .error (.needsOperand operator)
        else .ok (left != [], rest)
      | [] => .ok (left != [], [])

end

/-- How deep parentheses lie in each other at most that words are. -/
def nesting (words : List Octets) : Nat :=
  (words.foldl (fun (depth, most) word =>
    if word = ['('] then (depth + 1, max most (depth + 1))
    else (if word = [')'] then depth - 1 else depth, most)) (0, 0)).2

/-- How deep the reading of words goes at most. -/
def depthFor (words : List Octets) : Nat :=
  4 * words.length + 8

/-- What a whole condition comes to. Words that are left over make the last one before them a mistake. -/
def wholly (world : World) (first : Role) (words : List Octets) : Except Mistake Bool := do
  let (holds, rest) ← anyOf world (depthFor words) first words
  if rest = [] then return holds
  else throw (.misplaced (words[words.length - rest.length - 1]?.getD []))

/-- What the shell makes of three words, which may stand behind a negation. Two negations in a row count once. -/
def ofThree (world : World) (negated : Bool) (left operator right : Octets) : Except Mistake Bool :=
  if isShellBinary operator then (wholly world .operand [left, operator, right]).map (negated != ·)
  else if left = ['('] && right = [')'] then (wholly world (role [operator]) [operator]).map (negated != ·)
  else if left = ['!'] then (wholly world (role [operator, right]) [operator, right]).map (!·)
  else (wholly world (role [left, operator, right]) [left, operator, right]).map (negated != ·)

/-- What the shell makes of the words of a condition. -/
def ofShell (world : World) : List Octets → Except Mistake Bool
  | [] => .ok false
  | [left, operator, right] => ofThree world false left operator right
  | [first, second, third, last] =>
    if first = ['('] && last = [')'] then wholly world (role [second, third]) [second, third]
    else if first = ['!'] then ofThree world true second third last
    else wholly world (role [first, second, third, last]) [first, second, third, last]
  | words => wholly world (role words) words

/-! The grammar of the program. -/

/-- Whether a word is an operator of the program on two operands. -/
def isBinary (word : Octets) : Bool :=
  let text := String.ofList word
  text ∈ numberOperators || text ∈ filesOperators || text ∈ ["=", "==", "!="]

/-- The number a word is to the program, however long. -/
def number? (word : Octets) : Option Int :=
  Integer.whole? Integer.readDecimal word

/-- The word in front of a text whose length is meant. -/
def lengthMark : Octets := "-l".toList

/-- What an operator and its operands come to, a mark in front of one of which asks for its length. For texts
the mark on the right puts the operator in the place of the left one. -/
def marked (world : World) (ofLeft ofRight : Bool) (left operator right : Octets) : Except Mistake Bool :=
  let word := String.ofList operator
  let size := fun (isMarked : Bool) (text : Octets) => if isMarked then Octets.ofNat text.length else text
  if word ∈ numberOperators then
    binary world true number? (size ofLeft left) operator (size ofRight right)
  else if word ∈ filesOperators then
    if ofLeft || ofRight then .error (.noLength operator) else binary world true number? left operator right
  else binary world true number? (if ofRight then operator else left) operator right

/-- What an operator and its operands at the start of words come to. -/
def comparison (world : World) (ofLeft : Bool) : List Octets → Outcome
  | left :: operator :: right :: rest =>
    match right == lengthMark, rest with
    | true, text :: rest => (marked world ofLeft true left operator text).map (·, rest)
    | _, _ => (marked world ofLeft false left operator right).map (·, rest)
  | _ => .error .unreadable

/-- What an operator on one operand at the start of words comes to. -/
def single (world : World) : List Octets → Outcome
  | [] => .error .unreadable
  | operator :: rest =>
    if !isUnary operator then .error (.notUnary operator)
    else
      match rest with
      | operand :: rest =>
        if operator = ['-', 't'] && (number? operand).isNone then .error (.notNumber operand)
        else .ok (unary world operator operand, rest)
      | [] => .error .unreadable

/-- Whether a word looks like an operator on one operand. -/
def isSwitch : Octets → Bool
  | ['-', _] => true
  | _ => false

/-- What one word comes to. -/
def oneWord : List Octets → Outcome
  | word :: rest => .ok (word != [], rest)
  | [] => .error .unreadable

/-- What two words come to. -/
def twoWords (world : World) : List Octets → Outcome
  | first :: rest =>
    if first = ['!'] then (oneWord rest).map fun (holds, rest) => (!holds, rest)
    else if isSwitch first then single world (first :: rest)
    else .error .unreadable
  | [] => .error .unreadable

mutual

/-- What the given number of words come to, by the rules for so many. -/
def counted (world : World) : Nat → Nat → List Octets → Outcome
  | 0, _, _ => .error .unreadable
  | fuel + 1, count, words =>
    match count, words with
    | 1, _ => oneWord words
    | 2, _ => twoWords world words
    | 3, _ => threeWords world fuel words
    | 4, first :: rest =>
      if first = ['!'] then (threeWords world fuel rest).map fun (holds, rest) => (!holds, rest)
      else if first = ['('] && words[3]? = some [')'] then
        (twoWords world rest).map fun (holds, rest) => (holds, rest.tail)
      else alternatives world fuel words
    | _, _ => alternatives world fuel words

/-- What three words come to. -/
def threeWords (world : World) : Nat → List Octets → Outcome
  | 0, _ => .error .unreadable
  | fuel + 1, words =>
    match words with
    | first :: second :: rest =>
      if isBinary second then comparison world false words
      else if first = ['!'] then (twoWords world (second :: rest)).map fun (holds, rest) => (!holds, rest)
      else if first = ['('] && rest.head? = some [')'] then .ok (second != [], rest.tail)
      else if second = ['-', 'a'] || second = ['-', 'o'] then alternatives world fuel words
      else .error (.notBinary second)
    | _ => .error .unreadable

/-- Terms of which one has to hold. -/
def alternatives (world : World) : Nat → List Octets → Outcome
  | 0, _ => .error .unreadable
  | fuel + 1, words => do
    let (holds, rest) ← conjunction world fuel words
    match rest with
    | ['-', 'o'] :: more =>
      let (others, rest) ← alternatives world fuel more
      return (holds || others, rest)
    | _ => return (holds, rest)

/-- Terms all of which have to hold. -/
def conjunction (world : World) : Nat → List Octets → Outcome
  | 0, _ => .error .unreadable
  | fuel + 1, words => do
    let (holds, rest) ← term world fuel words
    match rest with
    | ['-', 'a'] :: more =>
      let (others, rest) ← conjunction world fuel more
      return (holds && others, rest)
    | _ => return (holds, rest)

/-- One term. -/
def term (world : World) : Nat → List Octets → Outcome
  | 0, _ => .error .unreadable
  | fuel + 1, words =>
    match words with
    | [] => .error .unreadable
    | ['!'] :: rest => (term world fuel rest).map fun (holds, rest) => (!holds, rest)
    | ['('] :: rest => do
      let inside := (rest.drop 1).takeWhile (· != [')'])
      let count := if inside.length ≤ 3 then inside.length + 1 else rest.length
      let (holds, rest) ← counted world fuel count rest
      match rest with
      | [')'] :: rest => return (holds, rest)
      | word :: _ => throw (.unclosedBefore word)
      | [] => throw .unclosed
    | first :: rest =>
      if first = lengthMark && 3 ≤ rest.length && rest[1]?.any isBinary then comparison world true rest
      else if 2 ≤ rest.length && rest[0]?.any isBinary then comparison world false words
      else if isSwitch first then single world words
      else .ok (first != [], rest)

end

/-- What the program makes of the words of a condition, which may stand in front of another one. -/
def ofProgram (world : World) (closing : Option Octets) (words : List Octets) : Except Mistake Bool :=
  match words.getLast? with
  | none => .ok false
  | some last =>
    match counted world (depthFor words) words.length words with
    | .ok (holds, []) => .ok holds
    | .ok (_, word :: _) => .error (.misplaced word)
    | .error .unreadable => .error (.needsOperand last)
    | .error .unclosed => .error (closing.elim .unclosed .unclosedBefore)
    | .error mistake => .error mistake

end Condition

end PreMerge.Host
