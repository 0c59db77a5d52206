import PreMerge.Host.Memory
import PreMerge.Host.Script

/-! How the text of a script is read. A script is read line by line, a line being a list of commands up to
the end of a line that does not belong to one of them. The text of a here-document comes after the line
that announces it; so a line is read twice, the second time with the documents known. -/

namespace PreMerge.Host

/-- A here-document that is announced. -/
structure Announced where
  /-- How many were announced before. -/
  index : Nat
  delimiter : Octets
  quoted : Bool
  /-- Whether tabs at the start of its lines are left out. -/
  flush : Bool

/-- A token. -/
inductive Token
  | word (word : Word)
  | operator (sign : String)
  | redirect (stream : Option Nat) (sign : String)
  | newline
  | ended

/-- The text that is read, and what was found in it so far. -/
structure Source where
  rest : Octets
  line : Nat := 1
  peeked : Option Token := none
  pending : List Announced := []
  bodies : List (Nat × Word) := []
  announced : Nat := 0
  /-- Whether the next word puts an end to a here-document, so that nothing is put into it. -/
  isDelimiter : Bool := false
  /-- The here-document whose text is read. -/
  document : Option Announced := none
  /-- Whether a line of it starts. -/
  isFresh : Bool := false
  /-- Whether tabs at the start of this line were left out. -/
  isStripped : Bool := false
  /-- The last word that was read. -/
  lastWord : Word := []
  /-- The here-documents, if they were read before. -/
  known : List (Nat × Word) := []
  aliases : List (Octets × Octets) := []
  /-- The aliases in whose text the reading is, with how much is left behind the text. -/
  busy : List (Octets × Nat) := []
  /-- How much is left when the next word may be an alias again. -/
  resumes : Option Nat := none
  /-- How much memory everything takes that the reading is in. -/
  used : Nat := 0

/-- Whether the line is next that puts an end to the here-document. -/
def Source.isAtDelimiter (source : Source) : Bool :=
  match source.document with
  | some document => source.isFresh && source.rest.takeWhile (· != '\n') == document.delimiter
  | none => false

/-- The characters at the start of a text that belong together, how many line ends between them do not count, and
what follows. A line end behind a backslash does not count. -/
def spanFolded (belongs : Char → Bool) : Octets → Octets × Nat × Octets
  | '\\' :: '\n' :: rest =>
    let (text, count, rest) := spanFolded belongs rest
    (text, count + 1, rest)
  | c :: rest =>
    if belongs c then
      let (text, count, rest) := spanFolded belongs rest
      (c :: text, count, rest)
    else ([], 0, c :: rest)
  | [] => ([], 0, [])

/-- The source where a line of a here-document starts, without its tabs if they are left out. -/
def Source.refreshed (source : Source) : Source :=
  match source.document with
  | none => { source with isFresh := true }
  | some document =>
    let (_, count, rest) := spanFolded (fun _ => false) source.rest
    let text := if document.flush then rest.dropWhile (· == '\t') else rest
    { source with
      isFresh := true
      isStripped := text.length < rest.length
      line := source.line + count
      rest := text }

/-- Why a text is not read: an error with the line it is on, or too much that lies in one another. -/
inductive Misreading
  | mistake (why : Octets) (line : Nat)
  | tooDeep

/-- What reads from a source. -/
abbrev Reading := StateT Source (Except Misreading)

namespace Reading

/-- An error in a text. -/
def refuse {α : Type} (why : String) : Reading α := do
  let source ← get
  let line := if source.isAtDelimiter then source.line + 1 else source.line
  throw (.mistake ("Syntax error: " ++ why).toList line)

/-- Reads what lies in something that takes so much memory. -/
def nested {α : Type} (size : Nat) (reading : Reading α) : Reading α := do
  let used := (← get).used
  if Memory.size < used + size then throw .tooDeep
  modify fun source => { source with used := used + size }
  let result ← reading
  modify fun source => { source with used }
  return result

/-- The characters that are left. -/
def rest : Reading Octets := do
  let source ← get
  return if source.isAtDelimiter then [] else source.rest

/-- Goes on behind the given number of characters, which are on one line. -/
def skip (count : Nat) : Reading Unit :=
  modify fun source => { source with rest := source.rest.drop count, isFresh := false, isStripped := false }

/-- Goes on behind characters. -/
def pass (chars : Octets) : Reading Unit :=
  modify fun source =>
    let later := { source with
      rest := source.rest.drop chars.length
      line := source.line + chars.count '\n'
      isFresh := false
      isStripped := false }
    if chars = ['\n'] then later.refreshed else later

/-- Joins the lines that the next characters of some kind are on; the characters that are left. -/
def joined (belongs : Char → Bool) : Reading Octets := do
  let source ← get
  if source.isAtDelimiter then return []
  match spanFolded belongs source.rest with
  | (_, 0, _) => return source.rest
  | (text, count, later) =>
    let rest := text ++ later
    set { source with rest, line := source.line + count }
    return rest

/-- Joins the lines up to the next character; the characters that are left. -/
def ahead : Reading Octets :=
  joined fun _ => false

end Reading

namespace Token

/-- The words that have a meaning of their own where a command can start. -/
def keywords : List String :=
  ["!", "case", "do", "done", "elif", "else", "esac", "fi", "for", "if", "in", "then", "until", "while",
    "\x7b", "\x7d"]

/-- The keyword a token can be. -/
def keyword? : Token → Option String
  | .word pieces =>
    match pieces.bare? with
    | some text => if String.ofList text ∈ keywords then some (String.ofList text) else none
    | none => none
  | _ => none

/-- The text of a token that is a word without quotes and expansions. -/
def bare? : Token → Option Octets
  | .word pieces => pieces.bare?
  | _ => none

/-- Whether a token is a keyword. -/
def isKeyword (name : String) (token : Token) : Bool :=
  token.keyword? == some name

/-- Whether a token is an operator. -/
def isOperator (sign : String) : Token → Bool
  | .operator other => other == sign
  | _ => false

/-- Whether a token ends a list of commands. -/
def ends (token : Token) : Bool :=
  token.isOperator ")" || token.isOperator ";;" ||
    match token.keyword? with
    | some name => name ∈ ["then", "elif", "else", "fi", "do", "done", "esac", "\x7d"]
    | none => false

/-- How a token is called in an error, `asKeyword` where keywords are known as such. -/
def describe (asKeyword : Bool) (token : Token) : String :=
  match token with
  | .word _ => if asKeyword then (token.keyword?.map fun name => "\"" ++ name ++ "\"").getD "word" else "word"
  | .operator sign => "\"" ++ sign ++ "\""
  | .redirect _ _ => "redirection"
  | .newline => "newline"
  | .ended => "end of file"

/-- Whether a character ends a word outside quotes. -/
def endsWord (c : Char) : Bool :=
  " \t\n;&|<>()".toList.contains c

/-- The signs of redirections, the longer ones first. -/
def redirections : List String :=
  ["<<-", "<<", "<&", "<>", "<", ">>", ">&", ">|", ">"]

/-- The operators, the longer ones first. -/
def operators : List String :=
  ["&&", "||", ";;", ";", "&", "|", "(", ")"]

/-- The first of some signs that a text starts with, and what follows it. -/
def sign? (signs : List String) (text : Octets) : Option (String × Octets) :=
  signs.findSome? fun sign => (Octets.after? sign.toList text).map fun rest => (sign, rest)

/-- Whether a character may be part of an operator or a redirection. -/
def inSign (c : Char) : Bool :=
  c.isDigit || "<>&|;-".toList.contains c

/-- Whether a character may belong to what is between braces before a word. -/
def inBraces (c : Char) : Bool :=
  Octets.isNameChar c || "@*#?-$!:=+%\x7d".toList.contains c

/-- The parameters that are called by one sign. -/
def isSpecial (c : Char) : Bool :=
  "@*#?-$!".toList.contains c

end Token

namespace Reading

/-- An error about the end of a text in the midst of quotes or braces. In a here-document the braces count. -/
def unended {α : Type} (quoted : Bool) : Reading α := do
  if quoted && (← get).document.isNone then refuse "Unterminated quoted string" else refuse "Missing '\x7d'"

/-- An error about a token. -/
def unexpected {α : Type} (token : Token) (expected : Option String := none) : Reading α :=
  refuse (token.describe true ++ " unexpected" ++
    expected.elim "" fun name => " (expecting \"" ++ name ++ "\")")

/-- Goes on behind a closing parenthesis, which has to be next where no keywords are known. -/
def close (next : Token) : Reading Unit :=
  if next.isOperator ")" then return ()
  else refuse (next.describe false ++ " unexpected (expecting \")\")")

/-- The text between backquotes with its backslashes resolved, and what follows. -/
def backquoted? (quoted : Bool) : Octets → Option (Octets × Octets)
  | [] => none
  | [c] => if c = '\x60' then some ([], []) else none
  | c :: d :: rest =>
    if c = '\x60' then some ([], d :: rest)
    else if c = '\\' && d = '\n' then backquoted? quoted rest
    else if c = '\\' && (d == '\x60' || d == '\\' || d == '$' || (quoted && d == '"')) then
      (backquoted? quoted rest).map fun (text, rest) => (d :: text, rest)
    else (backquoted? quoted (d :: rest)).map fun (text, rest) => (c :: text, rest)

/-- The lines up to one that is the delimiter of a document in which nothing is put in, how many lines there are
with this one, and what follows. -/
def documentLines (document : Announced) : Nat → Octets → Octets × Nat × Octets
  | 0, text => ([], 0, text)
  | _ + 1, [] => ([], 0, [])
  | fuel + 1, text =>
    let line := text.takeWhile (· != '\n')
    let rest := (text.dropWhile (· != '\n')).drop 1
    let line := if document.flush then line.dropWhile (· == '\t') else line
    if line = document.delimiter then ([], 1, rest)
    else
      let ending := if text.contains '\n' then ['\n'] else []
      let (more, count, rest') := documentLines document fuel rest
      (line ++ ending ++ more, ending.length + count, rest')

mutual

/-- The parts of a word up to its end. -/
def unquoted : Nat → Reading Word
  | 0 => refuse "Word too long"
  | fuel + 1 => do
    match ← rest with
    | [] => return []
    | c :: more =>
      if Token.endsWord c then return []
      else if c = '\\' then
        match more with
        | '\n' :: _ =>
          pass [c, '\n']
          unquoted fuel
        | d :: _ =>
          skip 2
          return Word.cons (.text true [d]) (← unquoted fuel)
        | [] =>
          skip 1
          return [.text true ['\\']]
      else if c = '\'' then
        let text ← singleQuoted
        return Word.cons (.text true text) (← unquoted fuel)
      else if c = '"' then
        skip 1
        let pieces ← doubleQuoted fuel false
        return Word.inQuotes pieces ++ (← unquoted fuel)
      else if (← get).isDelimiter && (c == '$' || c == '\x60') then
        skip 1
        return Word.cons (.text false [c]) (← unquoted fuel)
      else if c = '$' then
        skip 1
        let piece ← dollar fuel false
        return Word.cons piece (← unquoted fuel)
      else if c = '\x60' then
        skip 1
        let piece ← backquote fuel false
        return piece :: (← unquoted fuel)
      else
        let text := (c :: more).takeWhile fun c =>
          !Token.endsWord c && c != '\\' && c != '\'' && c != '"' && c != '$' && c != '\x60'
        skip text.length
        return Word.cons (.text false text) (← unquoted fuel)
where
  /-- The text between single quotes. -/
  singleQuoted : Reading Octets := do
    match Octets.splitAt? '\'' ((← rest).drop 1) with
    | some (text, _) =>
      pass ('\'' :: text ++ ['\''])
      return text
    | none =>
      modify fun source => { source with rest := [], line := source.line + source.rest.count '\n' }
      refuse "Unterminated quoted string"

/-- The parts of a text between double quotes, up to the closing one. Within braces a backslash quotes their end. -/
def doubleQuoted : Nat → Bool → Reading Word
  | 0, _ => refuse "Word too long"
  | fuel + 1, inBraces => do
    match ← rest with
    | [] => unended true
    | '"' :: _ =>
      skip 1
      return []
    | _ => do
      let pieces ← quotedPiece fuel (if inBraces then "$\x60\"\\\x7d" else "$\x60\"\\")
      return pieces ++ (← doubleQuoted fuel inBraces)

/-- The parts of a document to its end. -/
def documentText : Nat → Reading Word
  | 0 => refuse "Word too long"
  | fuel + 1 => do
    match ← rest with
    | [] => return []
    | _ => do
      let pieces ← quotedPiece fuel "$\x60\\"
      return pieces ++ (← documentText fuel)

/-- One part of a quoted text, in which a backslash quotes the given characters. -/
def quotedPiece : Nat → String → Reading Word
  | 0, _ => refuse "Word too long"
  | fuel + 1, escapable => do
    match ← rest with
    | '\\' :: '\n' :: _ =>
      if (← get).isStripped then
        skip 2
        return [.text true ['\\', '\n']]
      else
        pass ['\\', '\n']
        return []
    | '\\' :: d :: _ =>
      if escapable.toList.contains d then
        skip 2
        return [.text true [d]]
      else
        skip 1
        return [.text true ['\\']]
    | c :: _ =>
      if !(← get).isDelimiter && c == '$' then
        skip 1
        return [← dollar fuel true]
      else if !(← get).isDelimiter && c == '\x60' then
        skip 1
        return [← backquote fuel true]
      else
        pass [c]
        return [.text true [c]]
    | [] => return []

/-- What a dollar sign introduces. -/
def dollar : Nat → Bool → Reading Piece
  | 0, _ => refuse "Word too long"
  | fuel + 1, quoted => do
    match ← ahead with
    | '(' :: _ =>
      skip 1
      match ← ahead with
      | '(' :: _ =>
        skip 1
        return .value quoted (← nested Memory.calculation (expression fuel 0))
      | _ =>
        let outer ← get
        set { outer with pending := [], document := none }
        let script ← nested Memory.substitution (block fuel true)
        let token ← take fuel
        if token.isOperator ")" then
          modify fun source => { source with pending := outer.pending, document := outer.document }
          return .output quoted script
        else unexpected token (some ")")
    | '\x7b' :: _ =>
      skip 1
      braced fuel quoted
    | c :: _ =>
      if c.isDigit || Token.isSpecial c then
        skip 1
        return .parameter quoted [c] .asIs
      else if Octets.startsName c then
        let name := (← joined Octets.isNameChar).takeWhile Octets.isNameChar
        skip name.length
        return .parameter quoted name .asIs
      else return .text quoted ['$']
    | [] => return .text quoted ['$']

/-- The text of an expression up to its closing parentheses, inside of `depth` others. -/
def expression : Nat → Nat → Reading Word
  | 0, _ => refuse "Word too long"
  | fuel + 1, depth => do
    match ← rest with
    | [] => refuse "Missing '))'"
    | '(' :: _ =>
      skip 1
      return .text true ['('] :: (← expression fuel (depth + 1))
    | ')' :: _ =>
      skip 1
      match depth with
      | inner + 1 => return .text true [')'] :: (← expression fuel inner)
      | 0 =>
        match ← ahead with
        | ')' :: _ =>
          skip 1
          return []
        | _ => return .text true [')'] :: (← expression fuel 0)
    | _ => do
      let pieces ← quotedPiece fuel "$\x60\"\\"
      return pieces ++ (← expression fuel depth)

/-- What stands between backquotes, up to what cannot be part of it. -/
def backquote : Nat → Bool → Reading Piece
  | 0, _ => refuse "Word too long"
  | fuel + 1, quoted => do
    match backquoted? quoted (← rest) with
    | none =>
      pass (← rest)
      refuse "EOF in backquote substitution"
    | some (text, later) =>
      pass ((← rest).take ((← rest).length - later.length))
      let { aliases, used, .. } ← get
      match (block fuel true).run { rest := text, aliases, used } with
      | .error why => throw why
      | .ok (_, first) =>
        match (block fuel true).run { rest := text, known := first.bodies, aliases, used } with
        | .error why => throw why
        | .ok (script, _) => return .output quoted script

/-- A parameter between braces, behind the opening one. -/
def braced : Nat → Bool → Reading Piece
  | 0, _ => refuse "Word too long"
  | fuel + 1, quoted => do
    match ← joined Token.inBraces with
    | '#' :: '\x7d' :: _ =>
      skip 2
      return .parameter quoted ['#'] .asIs
    | '#' :: c :: more =>
      if more.head? == some '\x7d' && !(c.isDigit || Token.isSpecial c || Octets.startsName c) then
        skip 3
        return .mistaken
      else if c.isDigit || Token.isSpecial c || Octets.startsName c then
        let name := nameOf (c :: more)
        match more.drop (name.length - 1) with
        | '\x7d' :: _ =>
          skip (name.length + 2)
          return .parameter quoted name .length
        | _ =>
          skip 1
          change fuel quoted ['#']
      else
        skip 1
        change fuel quoted ['#']
    | c :: more =>
      if c.isDigit || Token.isSpecial c || Octets.startsName c then
        let name := nameOf (c :: more)
        skip name.length
        change fuel quoted name
      else
        skip (if c = '\x7d' then 0 else 1)
        let _ ← bracedWord fuel quoted
        return .mistaken
    | [] =>
      let _ ← bracedWord fuel quoted
      return .mistaken
where
  /-- The name at the start of a text that has one. -/
  nameOf : Octets → Octets
    | [] => []
    | c :: more =>
      if c.isDigit then (c :: more).takeWhile Char.isDigit
      else if Octets.startsName c then (c :: more).takeWhile Octets.isNameChar
      else [c]

/-- What follows the name of a parameter between braces. A character that means nothing there is passed over without
regard to what it is. -/
def change : Nat → Bool → Octets → Reading Piece
  | 0, _, _ => refuse "Word too long"
  | fuel + 1, quoted, name => do
    let (orEmpty, shift) := match ← rest with
      | ':' :: _ => (true, 1)
      | _ => (false, 0)
    match (← rest).drop shift with
    | '\x7d' :: _ =>
      if orEmpty then
        skip 2
        return .parameter quoted name (.last (← nested Memory.parameter (bracedWord fuel quoted)))
      else
        skip 1
        return .parameter quoted name .asIs
    | '-' :: _ =>
      skip (shift + 1)
      return .parameter quoted name (.default orEmpty (← nested Memory.parameter (bracedWord fuel quoted)))
    | '=' :: _ =>
      skip (shift + 1)
      let word ← nested (Memory.parameter + Memory.change) (bracedWord fuel quoted)
      return .parameter quoted name (.assign orEmpty word)
    | '?' :: _ =>
      skip (shift + 1)
      return .parameter quoted name (.demand orEmpty (← nested Memory.parameter (bracedWord fuel quoted)))
    | '+' :: _ =>
      skip (shift + 1)
      return .parameter quoted name (.instead orEmpty (← nested Memory.parameter (bracedWord fuel quoted)))
    | c :: more =>
      if (c == '%' || c == '#') && !orEmpty then
        let longest := more.head? == some c
        skip (if longest then 2 else 1)
        let pattern ← nested (Memory.parameter + Memory.change) (bracedWord fuel false)
        return .parameter quoted name (.trim (c == '%') longest pattern)
      else
        skip (shift + 1)
        let _ ← bracedWord fuel quoted
        return .mistaken
    | [] =>
      let _ ← bracedWord fuel quoted
      return .mistaken

/-- The word of a parameter between braces, up to the closing one. A pattern is as if the braces were not between
double quotes. -/
def bracedWord : Nat → Bool → Reading Word
  | 0, _ => refuse "Word too long"
  | fuel + 1, quoted => do
    match ← rest with
    | [] => unended quoted
    | '\x7d' :: _ =>
      skip 1
      return []
    | '"' :: _ =>
      skip 1
      let pieces ← doubleQuoted fuel true
      return Word.inQuotes pieces ++ (← bracedWord fuel quoted)
    | '\'' :: more =>
      if quoted then
        skip 1
        return .text true ['\''] :: (← bracedWord fuel quoted)
      else
        match Octets.splitAt? '\'' more with
        | some (text, _) =>
          pass ('\'' :: text ++ ['\''])
          return .text true text :: (← bracedWord fuel quoted)
        | none => refuse "Unterminated quoted string"
    | '$' :: _ =>
      skip 1
      let piece ← dollar fuel quoted
      return piece :: (← bracedWord fuel quoted)
    | '\x60' :: _ =>
      skip 1
      let piece ← backquote fuel quoted
      return piece :: (← bracedWord fuel quoted)
    | '\\' :: '\n' :: _ =>
      pass ['\\', '\n']
      bracedWord fuel quoted
    | '\\' :: d :: _ =>
      if quoted && !("$\x60\"\\\x7d".toList.contains d) then
        skip 1
        return .text true ['\\'] :: (← bracedWord fuel quoted)
      else
        skip 2
        return .text true [d] :: (← bracedWord fuel quoted)
    | c :: _ =>
      pass [c]
      return Word.cons (.text quoted [c]) (← bracedWord fuel quoted)

/-- The documents that are announced, at the end of a line. -/
def documents : Nat → Reading Unit
  | 0 => refuse "Word too long"
  | fuel + 1 => do
    match (← get).pending with
    | [] => return ()
    | document :: more =>
      let outer ← get
      if document.quoted then
        let (body, count, later) := documentLines document (outer.rest.length + 1) outer.rest
        set { outer with
          rest := later
          line := outer.line + count
          pending := more
          bodies := outer.bodies ++ [(document.index, [Piece.text true body])] }
      else
        let inside := { outer with document := some document, pending := [] }.refreshed
        let (word, after) ← (documentText fuel).run inside
        let (word, after) ←
          if after.bodies.length = outer.bodies.length then pure (word, after)
          else (documentText fuel).run { inside with known := after.bodies ++ outer.known }
        let isEnded := after.isAtDelimiter
        set { after with
          document := none
          known := outer.known
          rest := if isEnded then (after.rest.dropWhile (· != '\n')).drop 1 else after.rest
          line := if isEnded then after.line + 1 else after.line
          pending := more
          bodies := after.bodies ++ [(document.index, word)] }
      documents fuel

/-- The next token. -/
def token : Nat → Reading Token
  | 0 => refuse "Word too long"
  | fuel + 1 => do
    match ← joined Token.inSign with
    | [] => return .ended
    | '\n' :: _ =>
      pass ['\n']
      documents fuel
      return .newline
    | c :: more =>
      if c = ' ' || c = '\t' then
        skip 1
        token fuel
      else if c = '#' then
        skip (1 + (more.takeWhile (· != '\n')).length)
        token fuel
      else match Token.sign? Token.redirections (c :: more) with
        | some (sign, _) =>
          skip sign.length
          return .redirect none sign
        | none =>
          match c.isDigit, Token.sign? Token.redirections more with
          | true, some (sign, _) =>
            skip (1 + sign.length)
            return .redirect (some (c.toNat - '0'.toNat)) sign
          | _, _ =>
            match Token.sign? Token.operators (c :: more) with
            | some (sign, _) =>
              skip sign.length
              return .operator sign
            | none =>
              let word ← unquoted fuel
              modify fun source => { source with lastWord := word }
              return .word word

/-- The next token, which stays the next one. -/
def peek : Nat → Reading Token
  | 0 => refuse "Word too long"
  | fuel + 1 => do
    match (← get).peeked with
    | some next => return next
    | none =>
      let next ← token fuel
      modify fun source => { source with peeked := some next }
      return next

/-- The next token. -/
def take : Nat → Reading Token
  | 0 => refuse "Word too long"
  | fuel + 1 => do
    let next ← peek fuel
    modify fun source => { source with peeked := none }
    return next

/-- Puts the text of an alias in place of the next token, if that is one, where it is not in its own text. -/
def unalias : Nat → Reading Unit
  | 0 => refuse "Word too long"
  | fuel + 1 => do
    let next ← peek fuel
    let source ← get
    match next.bare? with
    | none => return ()
    | some name =>
      let busy := source.busy.filter fun (_, left) => left < source.rest.length
      if busy.any (·.1 == name) then return ()
      else match source.aliases.find? (·.1 == name) with
        | none => return ()
        | some (_, text) =>
          let left := source.rest.length
          set { source with
            peeked := none
            rest := text ++ source.rest
            busy := (name, left) :: busy
            resumes := if text.getLast?.any Octets.isBlank then some left else source.resumes }
          unalias fuel

/-- Goes on behind ends of lines. -/
def skipLines : Nat → Reading Unit
  | 0 => refuse "Word too long"
  | fuel + 1 => do
    match ← peek fuel with
    | .newline =>
      let _ ← take fuel
      skipLines fuel
    | _ => return ()

/-- Goes on behind a keyword that has to be next. -/
def expect : Nat → String → Reading Unit
  | 0, _ => refuse "Word too long"
  | fuel + 1, name => do
    let next ← take fuel
    if next.isKeyword name then return () else unexpected next (some name)

/-- The commands to the end of a line, after those read before; none at the end of the text. -/
def line : Nat → Script → Bool → Reading (Option Script)
  | 0, _, _ => refuse "Word too long"
  | fuel + 1, before, isFirst => do
    match ← peek fuel with
    | .newline =>
      let _ ← take fuel
      return some before
    | .ended => return if isFirst then none else some before
    | _ => do
      let command ← chain fuel
      match ← peek fuel with
      | .operator "&" =>
        let _ ← take fuel
        line fuel (before.followedBy (.background command)) false
      | .operator ";" =>
        let _ ← take fuel
        line fuel (before.followedBy command) false
      | .newline | .ended => line fuel (before.followedBy command) false
      | other => unexpected other

/-- The commands up to a token that ends them; without `mayBeEmpty` there has to be one. -/
def block : Nat → Bool → Reading Script
  | 0, _ => refuse "Word too long"
  | fuel + 1, mayBeEmpty => do
    skipLines fuel
    let next ← peek fuel
    match next with
    | .ended => return .nothing
    | _ =>
      if next.ends && mayBeEmpty then return .nothing
      else
        let command ← chain fuel
        match ← peek fuel with
        | .operator "&" =>
          let _ ← take fuel
          return (Script.background command).followedBy (← block fuel true)
        | .operator ";" =>
          let _ ← take fuel
          return command.followedBy (← block fuel true)
        | .newline => return command.followedBy (← block fuel true)
        | _ => return command

/-- Commands that depend on the success of those before them. -/
def chain : Nat → Reading Script
  | 0 => refuse "Word too long"
  | fuel + 1 => do
    let first ← pipeline fuel
    chainFrom fuel first

/-- The rest of a chain of commands. -/
def chainFrom : Nat → Script → Reading Script
  | 0, _ => refuse "Word too long"
  | fuel + 1, first => do
    match ← peek fuel with
    | .operator "&&" =>
      let _ ← take fuel
      skipLines fuel
      let second ← pipeline fuel
      chainFrom fuel (.both first second)
    | .operator "||" =>
      let _ ← take fuel
      skipLines fuel
      let second ← pipeline fuel
      chainFrom fuel (.either first second)
    | _ => return first

/-- Commands that pass on their output. -/
def pipeline : Nat → Reading Script
  | 0 => refuse "Word too long"
  | fuel + 1 => do
    if (← peek fuel).isKeyword "!" then
      let _ ← take fuel
      return .negation (← piped fuel)
    else piped fuel

/-- Commands that pass on their output, without a negation. -/
def piped : Nat → Reading Script
  | 0 => refuse "Word too long"
  | fuel + 1 => do
    let first ← command fuel
    match ← pipedParts fuel with
    | [] => return first
    | parts => return .pipe (first :: parts)

/-- The commands that take the output of the one before. -/
def pipedParts : Nat → Reading (List Script)
  | 0 => refuse "Word too long"
  | fuel + 1 => do
    match ← peek fuel with
    | .operator "|" =>
      let _ ← take fuel
      skipLines fuel
      let next ← command fuel
      return next :: (← pipedParts fuel)
    | _ => return []

/-- One command. -/
def command : Nat → Reading Script
  | 0 => refuse "Word too long"
  | fuel + 1 => do
    unalias fuel
    let start := (← get).line
    let next ← peek fuel
    match next.keyword?, next with
    | some "if", _ =>
      let _ ← take fuel
      let script ← nested Memory.compound (branch fuel)
      redirected fuel start script
    | some "while", _ =>
      let _ ← take fuel
      let script ← nested Memory.compound (loop fuel true)
      redirected fuel start script
    | some "until", _ =>
      let _ ← take fuel
      let script ← nested Memory.compound (loop fuel false)
      redirected fuel start script
    | some "for", _ =>
      let _ ← take fuel
      let script ← nested Memory.compound (each fuel start)
      redirected fuel start script
    | some "case", _ =>
      let _ ← take fuel
      let script ← nested Memory.compound (choice fuel start)
      redirected fuel start script
    | some "\x7b", _ =>
      let _ ← take fuel
      let script ← nested Memory.compound (block fuel false)
      expect fuel "\x7d"
      redirected fuel start script
    | some _, other => unexpected other
    | none, .operator "(" =>
      let _ ← take fuel
      let script ← nested Memory.compound (block fuel false)
      let close ← take fuel
      if close.isOperator ")" then redirected fuel start (.inner start script) else unexpected close (some ")")
    | none, .word _ => simple fuel start
    | none, .redirect _ _ => simple fuel start
    | none, other => unexpected other

/-- A script with the redirections that follow it. -/
def redirected : Nat → Nat → Script → Reading Script
  | 0, _, _ => refuse "Word too long"
  | fuel + 1, start, script => do
    match ← redirects fuel with
    | [] => return script
    | changes => return .redirected start script changes

/-- Redirections in a row. -/
def redirects : Nat → Reading (List Redirect)
  | 0 => refuse "Word too long"
  | fuel + 1 => do
    match ← peek fuel with
    | .redirect _ _ =>
      let first ← redirect fuel
      return first :: (← redirects fuel)
    | _ => return []

/-- One redirection. -/
def redirect : Nat → Reading Redirect
  | 0 => refuse "Word too long"
  | fuel + 1 => do
    match ← take fuel with
    | .redirect stream sign =>
      modify fun source => { source with isDelimiter := sign == "<<" || sign == "<<-" }
      let next ← take fuel
      modify fun source => { source with isDelimiter := false }
      match next with
      | .word word =>
        let input := sign.startsWith "<"
        let stream := stream.getD (if input then 0 else 1)
        match sign with
        | "<" => return ⟨stream, .file .input word⟩
        | ">" => return ⟨stream, .file .output word⟩
        | ">|" => return ⟨stream, .file .replace word⟩
        | ">>" => return ⟨stream, .file .append word⟩
        | "<>" => return ⟨stream, .file .both word⟩
        | "<&" | ">&" => return ⟨stream, .stream word⟩
        | _ =>
          let source ← get
          let body := ((source.known.find? (·.1 == source.announced)).map (·.2)).getD []
          let document : Announced := ⟨source.announced, word.characters, word.hasQuotes, sign == "<<-"⟩
          modify fun source =>
            { source with
              announced := source.announced + 1
              pending := source.pending ++ [document] }
          return ⟨stream, .document body⟩
      | other => unexpected other
    | other => unexpected other

/-- The assignments, words and redirections of a simple command, or a function. -/
def simple : Nat → Nat → Reading Script
  | 0, _ => refuse "Word too long"
  | fuel + 1, start => do
    let (assignments, words, changes) ← parts fuel true
    match words, assignments, changes, ← peek fuel with
    | [name], [], [], .operator "(" =>
      let _ ← take fuel
      close (← take fuel)
      match name.bare? with
      | some text =>
        if Octets.isName text && !(String.ofList text ∈ Script.special) then
          skipLines fuel
          return .function text (← nested Memory.function (command fuel))
        else refuse "Bad function name"
      | none => refuse "Bad function name"
    | _, _, _, _ => return .simple start assignments words changes

/-- The parts of a simple command; assignments are known as such before the first word only. -/
def parts : Nat → Bool → Reading (List (Octets × Word) × List Word × List Redirect)
  | 0, _ => refuse "Word too long"
  | fuel + 1, mayAssign => do
    if mayAssign then unalias fuel
    else if let some left := (← get).resumes then
      let _ ← peek fuel
      if (← get).rest.length < left then
        modify fun source => { source with resumes := none }
        unalias fuel
    match ← nested (if mayAssign then 0 else Memory.laterWord) (peek fuel) with
    | .word word =>
      let _ ← take fuel
      match if mayAssign then word.assignment? else none with
      | some assignment =>
        let (assignments, words, changes) ← parts fuel true
        return (assignment :: assignments, words, changes)
      | none =>
        let (assignments, words, changes) ← parts fuel false
        return (assignments, word :: words, changes)
    | .redirect _ _ =>
      let first ← redirect fuel
      let (assignments, words, changes) ← parts fuel mayAssign
      return (assignments, words, first :: changes)
    | _ => return ([], [], [])

/-- A branch behind its first keyword. -/
def branch : Nat → Reading Script
  | 0 => refuse "Word too long"
  | fuel + 1 => do
    let condition ← block fuel false
    expect fuel "then"
    let yes ← block fuel false
    let next ← peek fuel
    if next.isKeyword "elif" then
      let _ ← take fuel
      return .branch condition yes (← branch fuel)
    else if next.isKeyword "else" then
      let _ ← take fuel
      let no ← block fuel false
      expect fuel "fi"
      return .branch condition yes no
    else
      expect fuel "fi"
      return .branch condition yes .nothing

/-- A loop behind its keyword. -/
def loop : Nat → Bool → Reading Script
  | 0, _ => refuse "Word too long"
  | fuel + 1, onSuccess => do
    let condition ← block fuel false
    expect fuel "do"
    let body ← block fuel false
    expect fuel "done"
    return .loop onSuccess condition body

/-- A loop over words behind its keyword, which is on the given line. -/
def each : Nat → Nat → Reading Script
  | 0, _ => refuse "Word too long"
  | fuel + 1, start => do
    match ← take fuel with
    | .word word =>
      match word.bare? with
      | some name =>
        if !Octets.isName name then refuse "Bad for loop variable"
        else
          skipLines fuel
          let next ← peek fuel
          let words ← if next.isKeyword "in" then do
              let _ ← take fuel
              let words ← wordsInRow fuel
              match ← take fuel with
              | .newline | .operator ";" => pure words
              | other => unexpected other
            else do
              if next.isOperator ";" then
                let _ ← take fuel
              pure [[Piece.parameter true ['@'] .asIs]]
          skipLines fuel
          expect fuel "do"
          let body ← block fuel false
          expect fuel "done"
          return .each start name words body
      | none => refuse "Bad for loop variable"
    | _ => refuse "Bad for loop variable"

/-- Words in a row. -/
def wordsInRow : Nat → Reading (List Word)
  | 0 => refuse "Word too long"
  | fuel + 1 => do
    match ← peek fuel with
    | .word word =>
      let _ ← take fuel
      return word :: (← wordsInRow fuel)
    | _ => return []

/-- A choice behind its keyword, which is on the given line. -/
def choice : Nat → Nat → Reading Script
  | 0, _ => refuse "Word too long"
  | fuel + 1, start => do
    match ← take fuel with
    | .word word =>
      skipLines fuel
      expect fuel "in"
      return .choice start word (← cases fuel)
    | other => refuse (other.describe true ++ " unexpected (expecting word)")

/-- The cases of a choice up to its end. -/
def cases : Nat → Reading (List (List Word × Script))
  | 0 => refuse "Word too long"
  | fuel + 1 => do
    skipLines fuel
    let next ← take fuel
    if next.isKeyword "esac" then return []
    else
      if next.isOperator "(" then
        let _ ← take fuel
      let word := (← get).lastWord
      let more ← alternatives fuel
      close (← take fuel)
      let body ← block fuel true
      let next ← take fuel
      if next.isOperator ";;" then return (word :: more, body) :: (← cases fuel)
      else if next.isKeyword "esac" then return [(word :: more, body)]
      else unexpected next (some ";;")

/-- More patterns of a case. What stands in the place of one may be no word; the last word counts then. -/
def alternatives : Nat → Reading (List Word)
  | 0 => refuse "Word too long"
  | fuel + 1 => do
    match ← peek fuel with
    | .operator "|" =>
      let _ ← take fuel
      let _ ← take fuel
      let word := (← get).lastWord
      return word :: (← alternatives fuel)
    | _ => return []

end

end Reading

namespace Script

/-- How deep the reading of a line may go. -/
def readingDepth : Nat := 0x10000000000

/-- The next line of a text as a script, and the source after it; no script at the end of the text. -/
def next (source : Source) : Except Misreading (Option Script × Source) :=
  let fresh := { source with
    pending := [], bodies := [], announced := 0, known := [], busy := [], resumes := none }
  match (Reading.line readingDepth .nothing true).run fresh with
  | .error why => .error why
  | .ok (script, after) =>
    if after.bodies.isEmpty then .ok (script, after)
    else (Reading.line readingDepth .nothing true).run { fresh with known := after.bodies }

end Script

end PreMerge.Host
