import PreMerge.Host.Integer

/-! Arithmetic of the shell: expressions over words of sixty-four bits with the operators that change
variables, and what they come to. -/

namespace PreMerge.Host.Arithmetic

/-- The operators on two numbers. -/
inductive Operator
  | times
  | dividedBy
  | remainder
  | plus
  | minus
  | shiftLeft
  | shiftRight
  | less
  | atMost
  | greater
  | atLeast
  | equal
  | unequal
  | bitAnd
  | bitXor
  | bitOr
  deriving DecidableEq, Repr

namespace Operator

/-- How loosely an operator binds. -/
def looseness : Operator → Nat
  | .times | .dividedBy | .remainder => 0
  | .plus | .minus => 1
  | .shiftLeft | .shiftRight => 2
  | .less | .atMost | .greater | .atLeast => 3
  | .equal | .unequal => 4
  | .bitAnd => 5
  | .bitXor => 6
  | .bitOr => 7

/-- A truth value as a number. -/
def truth (holds : Bool) : Int :=
  if holds then 1 else 0

/-- The bits of a word, as a number without a sign. -/
def bits (n : Int) : Nat :=
  (n % 0x10000000000000000).toNat

/-- What an operator comes to; nothing can be divided by zero. -/
def result? (operator : Operator) (m n : Int) : Option Int :=
  match operator with
  | .times => some (Integer.wrap (m * n))
  | .dividedBy => if n = 0 then none else some (Integer.wrap (m.tdiv n))
  | .remainder => if n = 0 then none else some (m.tmod n)
  | .plus => some (Integer.wrap (m + n))
  | .minus => some (Integer.wrap (m - n))
  | .shiftLeft => some (Integer.wrap (m * Int.pow 2 (bits n % 64)))
  | .shiftRight => some (m.fdiv (Int.pow 2 (bits n % 64)))
  | .less => some (truth (m < n))
  | .atMost => some (truth (m ≤ n))
  | .greater => some (truth (n < m))
  | .atLeast => some (truth (n ≤ m))
  | .equal => some (truth (m == n))
  | .unequal => some (truth (m != n))
  | .bitAnd => some (Integer.wrap ((bits m &&& bits n : Nat) : Int))
  | .bitXor => some (Integer.wrap ((bits m ^^^ bits n : Nat) : Int))
  | .bitOr => some (Integer.wrap ((bits m ||| bits n : Nat) : Int))

end Operator

/-- The operators on one number. -/
inductive Prefixed
  | plus
  | minus
  | not
  | complement
  deriving DecidableEq, Repr

namespace Prefixed

/-- What an operator on one number comes to. -/
def apply (operator : Prefixed) (n : Int) : Int :=
  match operator with
  | .plus => n
  | .minus => Integer.wrap (-n)
  | .not => Operator.truth (n == 0)
  | .complement => -n - 1

end Prefixed

/-- What is wrong with an expression. -/
inductive Mistake
  | expected (what : String)
  | divisionByZero
  deriving DecidableEq, Repr

/-- The words for a mistake. -/
def Mistake.message : Mistake → Octets
  | .expected what => ("expecting " ++ what).toList
  | .divisionByZero => "division by zero".toList

/-- An expression. -/
inductive Expression
  | number (n : Int)
  | variable (name : Octets)
  | prefixed (operator : Prefixed) (operand : Expression)
  | binary (operator : Operator) (left right : Expression)
  | both (left right : Expression)
  | either (left right : Expression)
  | choice (condition yes no : Expression)
  /-- A variable that is set, to what an operator makes of its old value if there is one. -/
  | assign (name : Octets) (operator : Option Operator) (value : Expression)
  /-- An expression behind which nothing can be read. -/
  | broken (before : Expression) (mistake : Mistake)
  deriving DecidableEq, Repr, Inhabited

/-- A token of an expression. -/
inductive Token
  | number (n : Int)
  | name (text : Octets)
  | operator (operator : Operator)
  | assign (operator : Option Operator)
  | sign (text : String)
  | other (c : Char)
  deriving DecidableEq, Repr

namespace Token

/-- The signs of the operators on two numbers, the longer ones first. -/
def operators : List (String × Operator) :=
  [("<<", .shiftLeft), (">>", .shiftRight), ("<=", .atMost), (">=", .atLeast), ("==", .equal),
    ("!=", .unequal), ("*", .times), ("/", .dividedBy), ("%", .remainder), ("+", .plus), ("-", .minus),
    ("<", .less), (">", .greater), ("&", .bitAnd), ("^", .bitXor), ("|", .bitOr)]

/-- The tokens of signs, the longer signs first. -/
def signs : List (String × Token) :=
  let changing : List Operator :=
    [.times, .dividedBy, .remainder, .plus, .minus, .shiftLeft, .shiftRight, .bitAnd, .bitXor, .bitOr]
  let assignments := (operators.filter fun (_, which) => which ∈ changing).map fun (text, which) =>
    (text ++ "=", Token.assign (some which))
  let others := ["&&", "||", "!", "~", "(", ")", "?", ":"].map fun text => (text, Token.sign text)
  assignments ++ (others.take 2) ++ operators.map (fun (text, which) => (text, Token.operator which)) ++
    [("=", .assign none)] ++ others.drop 2

/-- The first token of a text without white space in front, and what follows. -/
def first (text : Octets) (c : Char) (rest : Octets) : Token × Octets :=
  if c.isDigit then
    let reading := Integer.read text
    (.number (Integer.clamp Integer.least Integer.greatest reading.value), reading.rest)
  else if Octets.startsName c then
    (.name (text.takeWhile Octets.isNameChar), text.dropWhile Octets.isNameChar)
  else
    let found := signs.findSome? fun (spelling, token) =>
      (Octets.after? spelling.toList text).map fun later => (token, later)
    found.getD (.other c, rest)

/-- The tokens of a text. -/
def all : Nat → Octets → List Token
  | 0, _ => []
  | _ + 1, [] => []
  | fuel + 1, c :: rest =>
    if c == ' ' || c == '\t' || c == '\n' then all fuel rest
    else
      let (token, later) := first (c :: rest) c rest
      token :: all fuel later

/-- The operator on one number that a token is. -/
def prefixed? : Token → Option Prefixed
  | .operator .plus => some .plus
  | .operator .minus => some .minus
  | .sign "!" => some .not
  | .sign "~" => some .complement
  | _ => none

end Token

namespace Expression

/-- What reads from tokens. -/
abbrev Reading := StateM (List Token)

/-- The end of all reading, behind an expression. -/
def endAt (before : Expression) (what : String) : Reading Expression := do
  set ([] : List Token)
  return .broken before (.expected what)

/-- The mistake that an expression breaks off with. -/
def mistake? : Expression → Option Mistake
  | .number _ | .variable _ => none
  | .prefixed _ operand => operand.mistake?
  | .binary _ left right | .both left right | .either left right => left.mistake? <|> right.mistake?
  | .choice condition yes no => condition.mistake? <|> yes.mistake? <|> no.mistake?
  | .assign _ _ value => value.mistake?
  | .broken before mistake => before.mistake? <|> some mistake

/-- Goes on behind a sign that has to be next, unless the expression before it has broken off. There is nothing
left behind one that has. -/
def expect (before : Expression) (sign : String) (onward : Reading Expression) : Reading Expression := do
  match ← get with
  | .sign found :: rest =>
    if found = sign then
      set rest
      onward
    else endAt before ("'" ++ sign ++ "'")
  | [] =>
    if before.mistake?.isSome then return before
    else endAt before ("'" ++ sign ++ "'")
  | _ => endAt before ("'" ++ sign ++ "'")

mutual

/-- An expression that may set a variable. -/
def readAssignment : Nat → Reading Expression
  | 0 => endAt (.number 0) "primary"
  | fuel + 1 => do
    match ← get with
    | .name name :: .assign operator :: rest =>
      set rest
      return .assign name operator (← readAssignment fuel)
    | _ => readChoice fuel

/-- An expression with a condition. -/
def readChoice : Nat → Reading Expression
  | 0 => endAt (.number 0) "primary"
  | fuel + 1 => do
    let condition ← readDisjunction fuel
    match ← get with
    | .sign "?" :: rest =>
      set rest
      let yes ← readAssignment fuel
      let isBroken := (← get).isEmpty && yes.mistake?.isSome
      let no ← if isBroken then pure (.number 0) else expect (.number 0) ":" (readChoice fuel)
      return .choice condition yes no
    | _ => return condition

/-- Expressions of which one has to hold. -/
def readDisjunction : Nat → Reading Expression
  | 0 => endAt (.number 0) "primary"
  | fuel + 1 => do
    let left ← readConjunction fuel
    match ← get with
    | .sign "||" :: rest =>
      set rest
      return .either left (← readDisjunction fuel)
    | _ => return left

/-- Expressions all of which have to hold. -/
def readConjunction : Nat → Reading Expression
  | 0 => endAt (.number 0) "primary"
  | fuel + 1 => do
    let left ← readOperand fuel
    let left ← readOperations fuel 8 left
    match ← get with
    | .sign "&&" :: rest =>
      set rest
      return .both left (← readConjunction fuel)
    | _ => return left

/-- The operators after an operand that bind more closely than a bound, and their operands. -/
def readOperations : Nat → Nat → Expression → Reading Expression
  | 0, _, left => endAt left "primary"
  | fuel + 1, bound, left => do
    match ← get with
    | .operator operator :: rest =>
      if operator.looseness < bound then
        set rest
        let right ← readOperand fuel
        let right ← readOperations fuel operator.looseness right
        readOperations fuel bound (.binary operator left right)
      else return left
    | _ => return left

/-- An operand. -/
def readOperand : Nat → Reading Expression
  | 0 => endAt (.number 0) "primary"
  | fuel + 1 => do
    match ← get with
    | .sign "(" :: rest =>
      set rest
      let inner ← readAssignment fuel
      expect inner ")" (pure inner)
    | .number n :: rest =>
      set rest
      return .number n
    | .name name :: rest =>
      set rest
      return .variable name
    | token :: rest =>
      match token.prefixed? with
      | some operator =>
        set rest
        return .prefixed operator (← readOperand fuel)
      | none => endAt (.number 0) "primary"
    | [] => endAt (.number 0) "primary"

end

/-- How deep parentheses lie in each other at most in a text. -/
def nesting (text : Octets) : Nat :=
  (text.foldl (fun (depth, most) c =>
    if c = '(' then (depth + 1, max most (depth + 1))
    else (if c = ')' then depth - 1 else depth, most)) (0, 0)).2

/-- The expression that a text is. -/
def ofText (text : Octets) : Expression :=
  let tokens := Token.all (text.length + 1) text
  match (readAssignment (8 * tokens.length + 8)).run tokens with
  | (expression, []) => expression
  | (expression, _ :: _) => .broken expression (.expected "EOF")

/-- What an expression comes to, where `look` gives the values of variables, `keep` sets them, and `refuse` ends
it all. Where an expression breaks off, all before it has its effects; what is not evaluated may break off too. -/
def evaluate {m : Type → Type} [Monad m] (look : Octets → m Int) (keep : Octets → Int → m Unit)
    (refuse : Mistake → m Int) : Expression → m Int
  | .number n => pure n
  | .variable name => look name
  | .prefixed operator operand => do
    return operator.apply (← evaluate look keep refuse operand)
  | .binary operator left right => do
    let left ← evaluate look keep refuse left
    let right ← evaluate look keep refuse right
    match operator.result? left right with
    | some n => return n
    | none => refuse .divisionByZero
  | .both left right => do
    if (← evaluate look keep refuse left) = 0 then skip right 0
    else return Operator.truth ((← evaluate look keep refuse right) != 0)
  | .either left right => do
    if (← evaluate look keep refuse left) = 0 then
      return Operator.truth ((← evaluate look keep refuse right) != 0)
    else skip right 1
  | .choice condition yes no => do
    if (← evaluate look keep refuse condition) = 0 then
      let _ ← skip yes 0
      evaluate look keep refuse no
    else
      let result ← evaluate look keep refuse yes
      skip no result
  | .assign name operator value => do
    let value ← evaluate look keep refuse value
    let result ← match operator with
      | none => pure value
      | some operator => do
        match operator.result? (← look name) value with
        | some n => pure n
        | none => refuse .divisionByZero
    keep name result
    return result
  | .broken before mistake => do
    let _ ← evaluate look keep refuse before
    refuse mistake
where
  /-- A result that does not depend on an expression, unless that breaks off. -/
  skip (expression : Expression) (result : Int) : m Int :=
    (expression.mistake?).elim (pure result) refuse

end Expression

theorem Operator.result?_eq_none_iff (operator : Operator) (m n : Int) :
    operator.result? m n = none ↔ (operator = .dividedBy ∨ operator = .remainder) ∧ n = 0 := by
  cases operator <;> simp [result?]

end PreMerge.Host.Arithmetic
