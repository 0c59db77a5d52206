import PreMerge.Host.Quoting
import PreMerge.Host.Real

/-! Formatted text: a format is printed as it stands but for escapes and for directives, each of which
stands for the next operand. There are two dialects, that of the shell and that of the program. A format
that has used operands is printed again as long as there are more. -/

namespace PreMerge.Host

/-- The dialects of formats. -/
inductive Dialect
  | shell
  | program
  deriving DecidableEq, Repr

namespace Format

/-- How something is printed. -/
structure Style where
  left : Bool := false
  plus : Bool := false
  space : Bool := false
  alternate : Bool := false
  zeros : Bool := false
  width : Nat := 0
  precision : Option Nat := none
  deriving DecidableEq, Repr

namespace Style

/-- The style with one more flag. -/
def flag (style : Style) (c : Char) : Style :=
  match c with
  | '-' => { style with left := true }
  | '+' => { style with plus := true }
  | ' ' => { style with space := true }
  | '#' => { style with alternate := true }
  | '0' => { style with zeros := true }
  | _ => style

/-- The style with a width; one below zero asks for the left side. -/
def ofWidth (style : Style) (width : Int) : Style :=
  if width < 0 then { style with left := true, width := width.natAbs } else { style with width := width.toNat }

/-- The greatest width that can be printed. -/
def greatestWidth : Nat := 0x2000000

/-- Whether more would be printed than can be. -/
def isTooWide (style : Style) : Bool :=
  greatestWidth < style.width || style.precision.any (greatestWidth < ·)

/-- The style with a precision; one below zero is none. -/
def ofPrecision (style : Style) (precision : Int) : Style :=
  { style with precision := if precision < 0 then none else some precision.toNat }

/-- A text filled up to the width, with zeros behind its lead if `withZeros` and the style say so. -/
def pad (style : Style) (withZeros : Bool) (lead body : Octets) : Octets :=
  let missing := style.width - (lead.length + body.length)
  if style.left then lead ++ body ++ List.replicate missing ' '
  else if style.zeros && withZeros then lead ++ List.replicate missing '0' ++ body
  else List.replicate missing ' ' ++ lead ++ body

/-- The sign of a number. -/
def sign (style : Style) (negative : Bool) : Octets :=
  if negative then ['-'] else if style.plus then ['+'] else if style.space then [' '] else []

/-- A text, cut down to the precision. -/
def text (style : Style) (text : Octets) : Octets :=
  style.pad false [] (style.precision.elim text text.take)

/-- The digits of a whole number, as many at least as the precision says. -/
def wholeDigits (style : Style) (base n : Nat) : Octets :=
  if n = 0 && style.precision = some 0 then []
  else Real.padded (style.precision.getD 1) (Integer.digits base n)

/-- A whole number with its sign. -/
def signed (style : Style) (n : Int) : Octets :=
  style.pad style.precision.isNone (style.sign (n < 0)) (style.wholeDigits 10 n.natAbs)

/-- A whole number without a sign, in the base of a directive. -/
def unsigned (style : Style) (conversion : Char) (n : Nat) : Octets :=
  match conversion with
  | 'o' =>
    let digits := style.wholeDigits 8 n
    let digits := if style.alternate && digits.head? != some '0' then '0' :: digits else digits
    style.pad style.precision.isNone [] digits
  | 'x' => style.pad style.precision.isNone (lead "0x") (style.wholeDigits 16 n)
  | 'X' => style.pad style.precision.isNone (lead "0X") ((style.wholeDigits 16 n).map Char.toUpper)
  | _ => style.pad style.precision.isNone [] (style.wholeDigits 10 n)
where
  /-- What stands in front of the digits of base sixteen. -/
  lead (mark : String) : Octets :=
    if style.alternate && n != 0 then mark.toList else []

/-- A real number by a directive. -/
def real (style : Style) (kind : RealKind) (conversion : Char) (value : Real) : Octets :=
  let sign := style.sign value.isNegative
  let places := style.precision.getD 6
  let upper := fun (text : Octets) => if conversion.isUpper then text.map Char.toUpper else text
  match value with
  | .nan _ => style.pad false sign (upper "nan".toList)
  | .infinity _ => style.pad false sign (upper "inf".toList)
  | .finite _ n d =>
    match conversion.toLower with
    | 'f' => style.pad true sign (Real.fixed style.alternate places n d)
    | 'e' => style.pad true sign (upper (Real.scientific style.alternate places n d))
    | 'g' => style.pad true sign (upper (Real.general style.alternate places n d))
    | _ => style.pad true (sign ++ upper "0x".toList)
      (upper (Real.hexadecimal kind style.alternate style.precision n d))

end Style

/-- What is printed, the operands that are left, and the complaints, each after the text printed before it. -/
structure State where
  operands : List Octets
  printed : List (Octets ⊕ Octets) := []
  failed : Bool := false
  used : Bool := false
  /-- Whether something was too wide to be printed. -/
  broken : Bool := false

/-- Why a format is not printed to its end. -/
inductive Stop
  | asked
  | mistaken (why : Octets)

/-- What prints. -/
abbrev Printer := ExceptT Stop (StateM State)

/-- Prints a text. -/
def put (text : Octets) : Printer Unit :=
  modify fun state => { state with printed := .inl text :: state.printed }

/-- Complains, and goes on. -/
def complain (why : Octets) : Printer Unit :=
  modify fun state => { state with printed := .inr why :: state.printed, failed := true }

/-- The next operand. -/
def next? : Printer (Option Octets) := do
  match (← get).operands with
  | operand :: rest =>
    modify fun state => { state with operands := rest, used := true }
    return some operand
  | [] => return none

/-- The character of a code. -/
def ofCode (code : Nat) : Octets :=
  [Char.ofNat (code % 256)]

/-- Whether a character is a digit of base eight. -/
def isOctal (c : Char) : Bool :=
  '0' ≤ c && c ≤ '7'

/-- The character that a letter behind a backslash stands for. -/
def letter? (c : Char) : Option Char :=
  match c with
  | '\\' => some '\\'
  | 'a' => some '\u0007'
  | 'b' => some '\u0008'
  | 'e' => some '\u001B'
  | 'f' => some '\u000C'
  | 'n' => some '\n'
  | 'r' => some '\r'
  | 't' => some '\t'
  | 'v' => some '\u000B'
  | _ => none

/-- The character whose code is written with up to three digits of base eight, and what follows. -/
def octal (text : Octets) : Octets × Octets :=
  let digits := (text.take 3).takeWhile isOctal
  (ofCode (Integer.ofDigits 8 digits), text.drop digits.length)

/-- The text that an escape of the shell stands for, and what follows; `text` is behind the backslash. -/
def shellEscape (text : Octets) : Octets × Octets :=
  match text with
  | c :: rest =>
    match letter? c with
    | some char => ([char], rest)
    | none => if isOctal c then octal text else (['\\'], text)
  | [] => (['\\'], [])

/-- A text of the shell with its escapes, and whether one of them ends all printing. -/
def shellEscapes : Nat → Octets → Octets × Bool
  | 0, _ => ([], false)
  | _ + 1, [] => ([], false)
  | _ + 1, '\\' :: 'c' :: _ => ([], true)
  | fuel + 1, '\\' :: rest =>
    let start := match rest with
      | '0' :: digit :: more => if isOctal digit then digit :: more else rest
      | _ => rest
    let (text, later) := shellEscape start
    let (texts, ends) := shellEscapes fuel later
    (text ++ texts, ends)
  | fuel + 1, c :: rest =>
    let (texts, ends) := shellEscapes fuel rest
    (c :: texts, ends)

/-- The complaint about an escape without its digits. -/
def missingDigits : Stop :=
  .mistaken "missing hexadecimal number in escape".toList

/-- Prints the escape of the program at the start of a text behind a backslash; what follows it. With
`zeroFirst` a zero may stand before the digits of a code. -/
def programEscape (zeroFirst : Bool) (text : Octets) : Printer Octets := do
  match text with
  | 'x' :: rest =>
    let digits := (rest.take 2).takeWhile (Integer.isDigit 16)
    if digits = [] then throw missingDigits
    else
      put (ofCode (Integer.ofDigits 16 digits))
      return rest.drop digits.length
  | 'c' :: _ => throw .asked
  | '"' :: rest =>
    put ['"']
    return rest
  | c :: rest =>
    match letter? c with
    | some char =>
      put [char]
      return rest
    | none =>
      if isOctal c then
        let (char, later) := octal (if zeroFirst && c == '0' then rest else text)
        put char
        return later
      else if c = 'u' || c = 'U' then
        let count := if c = 'u' then 4 else 8
        let digits := (rest.take count).takeWhile (Integer.isDigit 16)
        if digits.length < count then throw missingDigits
        else
          put (unicode digits)
          return rest.drop count
      else
        put ['\\', c]
        return rest
  | [] =>
    put ['\\']
    return []
where
  /-- A character beyond those of the host, by its code. -/
  unicode (digits : Octets) : Octets :=
    let code := Integer.ofDigits 16 digits
    if code < 128 then ofCode code
    else
      let shown := (Integer.digits 16 code).map Char.toUpper
      if code < 0x10000 then '\\' :: 'u' :: Real.padded 4 shown else '\\' :: 'U' :: Real.padded 8 shown

/-- Prints a text of the program with its escapes. -/
def programEscapes : Nat → Octets → Printer Unit
  | 0, _ => pure ()
  | _ + 1, [] => pure ()
  | fuel + 1, '\\' :: rest => do
    let later ← programEscape true rest
    programEscapes fuel later
  | fuel + 1, c :: rest => do
    put [c]
    programEscapes fuel rest

/-- How a dialect names an operand it complains about. -/
def Dialect.name (dialect : Dialect) (operand : Octets) : Octets :=
  match dialect with
  | .shell => operand
  | .program => Quoting.message operand

/-- Complains about an operand that is not wholly a number. -/
def checkNumber (dialect : Dialect) (operand rest : Octets) (found outOfRange : Bool) : Printer Unit := do
  let name := Dialect.name dialect operand
  let beyond := name ++ ": Numerical result out of range".toList
  let partly :=
    if !found then name ++ (if dialect = .shell then ": expected numeric value"
      else ": expected a numeric value").toList
    else name ++ (if dialect = .shell then ": not completely converted"
      else ": value not completely converted").toList
  if dialect = .program && outOfRange then complain beyond
  else if rest != [] then complain partly
  else if outOfRange then complain beyond

/-- The code of the character that an operand quotes. -/
def quotedCode? (dialect : Dialect) (operand : Octets) : Printer (Option Nat) := do
  match operand with
  | [mark] => return if (mark == '"' || mark == '\'') && dialect == .shell then some 0 else none
  | mark :: c :: rest =>
    if mark == '"' || mark == '\'' then
      if dialect = .program && rest != [] then
        modify fun state =>
          { state with
            printed := .inr ("warning: ".toList ++ rest ++
              ": character(s) following character constant have been ignored".toList) :: state.printed }
      return some c.toNat
    else return none
  | [] => return none

/-- The whole number that an operand is, between the bounds of a directive. -/
def wholeOperand (dialect : Dialect) (hasSign : Bool) : Printer Int := do
  match ← next? with
  | none => return 0
  | some operand =>
    match ← quotedCode? dialect operand with
    | some code => return code
    | none =>
      let reading := Integer.read operand
      let outOfRange := if hasSign then reading.value < Integer.least || Integer.greatest < reading.value
        else reading.value < -Integer.greatestUnsigned || Integer.greatestUnsigned < reading.value
      checkNumber dialect operand reading.rest reading.found outOfRange
      if hasSign then return Integer.clamp Integer.least Integer.greatest reading.value
      else if outOfRange then return Integer.greatestUnsigned
      else return reading.value % 0x10000000000000000

/-- The real number that an operand is. -/
def realOperand (dialect : Dialect) (kind : RealKind) : Printer Real := do
  match ← next? with
  | none => return .finite false 0 1
  | some operand =>
    match ← quotedCode? dialect operand with
    | some code => return .finite false code 1
    | none =>
      let reading := Real.read kind operand
      checkNumber dialect operand reading.rest reading.found reading.outOfRange
      return reading.value

/-- The kind of real numbers of a dialect. -/
def Dialect.kind : Dialect → RealKind
  | .shell => .double
  | .program => .extended

/-- Prints what comes out in a style, unless it is too wide. -/
def putStyled (dialect : Dialect) (style : Style) (field : Style → Octets) : Printer Unit := do
  if !style.isTooWide then put (field style)
  else
    match dialect with
    | .shell => throw (.mistaken "xvsnprintf failed".toList)
    | .program => modify fun state => { state with broken := true }

/-- Prints the next operand by a directive, if it is one. -/
def convert (dialect : Dialect) (style : Style) (conversion : Char) : Printer Bool := do
  if conversion = 'd' || conversion = 'i' then
    let n ← wholeOperand dialect true
    putStyled dialect style (·.signed n)
    return true
  else if "ouxX".toList.contains conversion then
    let n ← wholeOperand dialect false
    putStyled dialect style (·.unsigned conversion n.toNat)
    return true
  else if "aAeEfFgG".toList.contains conversion then
    let value ← realOperand dialect (Dialect.kind dialect)
    putStyled dialect style (·.real (Dialect.kind dialect) conversion value)
    return true
  else if conversion = 's' then
    let operand := (← next?).getD []
    putStyled dialect style (·.text operand)
    return true
  else if conversion = 'c' then
    let operand := (← next?).getD []
    putStyled dialect style (·.pad false [] [operand.headD '\u0000'])
    return true
  else if conversion = 'b' && dialect = .shell then
    let operand := (← next?).getD []
    let (text, ends) := shellEscapes (operand.length + 1) operand
    putStyled dialect style (·.text text)
    if ends then throw .asked
    return true
  else return false

/-- The number that is written out at the start of a text or given by an operand, and what follows. `what` is
what it is for. -/
def measure (dialect : Dialect) (what : String) (text : Octets) : Printer (Option Int × Octets) := do
  match text with
  | '*' :: rest =>
    let operand := (← get).operands.headD []
    let n ← wholeOperand dialect true
    let isLow := n < -0x80000000 && what != "precision"
    if dialect = .program && (isLow || 0x80000000 ≤ n) then
      throw (.mistaken (("invalid " ++ what ++ ": ").toList ++ Quoting.message operand))
    return (some (if dialect = .program then n else Int.bmod n 0x100000000), rest)
  | _ =>
    let digits := text.takeWhile Char.isDigit
    let number := if digits = [] then none else some (Integer.ofDigits 10 digits : Int)
    return (number, text.dropWhile Char.isDigit)

/-- The conversions that a flag of the program goes with. -/
def suits (flags : Octets) (hasPrecision : Bool) (conversion : Char) : Bool :=
  let all := "aAcdeEfFgGiosuxX".toList
  all.contains conversion &&
    !((flags.contains '\'' || flags.contains 'I') && "aAceEosxX".toList.contains conversion) &&
    !(flags.contains '#' && "cdisu".toList.contains conversion) &&
    !(flags.contains '0' && "cs".toList.contains conversion) &&
    !(hasPrecision && conversion == 'c')

/-- Prints by the directive at the start of a text, behind its sign; what follows. -/
def directive (dialect : Dialect) (text : Octets) : Printer Octets := do
  match dialect, text with
  | _, '%' :: rest =>
    put ['%']
    return rest
  | .program, 'b' :: rest =>
    if let some operand := ← next? then programEscapes (operand.length + 1) operand
    return rest
  | .program, 'q' :: rest =>
    if let some operand := ← next? then put (Quoting.shell false operand)
    return rest
  | _, _ =>
    let isFlag := fun c => "#-+ 0".toList.contains c || (dialect == .program && (c == 'I' || c == '\''))
    let flags := text.takeWhile isFlag
    let style := flags.foldl Style.flag {}
    let (width, rest) ← measure dialect "field width" (text.dropWhile isFlag)
    let style := width.elim style style.ofWidth
    let (style, rest, hasPrecision) ← match rest with
      | '.' :: rest => do
        let (precision, rest) ← measure dialect "precision" rest
        pure (style.ofPrecision (precision.getD 0), rest, true)
      | _ => pure (style, rest, false)
    let rest := if dialect = .program then rest.dropWhile ("lLhjtz".toList.contains ·) else rest
    let spelling := fun (_ : Unit) => '%' :: text.take (text.length - rest.length + 1)
    match dialect, rest with
    | .shell, [] => throw (.mistaken "missing format character".toList)
    | .program, [] => throw (.mistaken (spelling () ++ ": invalid conversion specification".toList))
    | _, conversion :: rest =>
      if dialect = .program && !suits flags hasPrecision conversion then
        throw (.mistaken (spelling () ++ ": invalid conversion specification".toList))
      else if ← convert dialect style conversion then return rest
      else throw (.mistaken (spelling () ++ ": invalid directive".toList))

/-- Prints a format once. -/
def once (dialect : Dialect) : Nat → Octets → Printer Unit
  | 0, _ => pure ()
  | _ + 1, [] => pure ()
  | fuel + 1, c :: rest => do
    if c = '%' then
      let later ← directive dialect rest
      once dialect fuel later
    else if c = '\\' then
      match dialect with
      | .shell =>
        let (text, later) := shellEscape rest
        put text
        once dialect fuel later
      | .program =>
        let later ← programEscape false rest
        once dialect fuel later
    else
      put [c]
      once dialect fuel rest

/-- Prints a format as often as there are operands for it. -/
def again (dialect : Dialect) (format : Octets) : Nat → Printer Unit
  | 0 => pure ()
  | fuel + 1 => do
    once dialect (format.length + 1) format
    let state ← get
    if state.used && !state.operands.isEmpty then again dialect format fuel
    else if dialect = .program && !state.operands.isEmpty then
      modify fun state =>
        { state with
          printed := .inr ("warning: ignoring excess arguments, starting with ".toList ++
            Quoting.message (state.operands.headD [])) :: state.printed }

/-- What printing a format comes to. -/
structure Printed where
  /-- Texts and complaints in their order. -/
  parts : List (Octets ⊕ Octets)
  failed : Bool
  /-- What is so wrong with the format that it is not printed to its end. -/
  mistake : Option Octets

/-- Prints a format with operands. When a program is asked to stop, it forgets about its complaints. -/
def print (dialect : Dialect) (format : Octets) (operands : List Octets) : Printed :=
  let (ending, state) := (again dialect format (operands.length + 1)).run.run { operands }
  let mistake := match ending with
    | .error (.mistaken why) => some why
    | _ => if state.broken then some "write error".toList else none
  let forgives := match ending with
    | .error .asked => dialect == .program
    | _ => false
  { parts := state.printed.reverse, failed := (state.failed && !forgives) || mistake.isSome, mistake }

end Format

end PreMerge.Host
