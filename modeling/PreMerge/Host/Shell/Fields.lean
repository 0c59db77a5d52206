import PreMerge.Host.Pattern
import PreMerge.Host.Value

/-! How expanded text is split into fields. Fields end in ranges only, which the values that were put in leave
behind: at the separators, or between parameters. Separators that show as nothing count together with those next
to them in the same range. -/

namespace PreMerge.Host

/-- A bit of an expanded word. -/
inductive Bit
  /-- A value, with whether it was quoted and whether it stands in a range. -/
  | run (value : Value) (quoted inside : Bool)
  /-- Nothing, in quotes. -/
  | void
  /-- The start of a range, in which fields may end only between parameters or at separators too. -/
  | range (onlyBetween : Bool)
  /-- The place between two parameters in a range. -/
  | between
  deriving DecidableEq, Repr

namespace Bit

/-- The bit of a value, if there is anything in it. -/
def ofRun (quoted inside : Bool) (value : Value) : List Bit :=
  if value.isEmpty then [] else [.run value quoted inside]

/-- Bits with a character in front. -/
def cons (c : Char) (quoted inside : Bool) : List Bit → List Bit
  | .run (.plain text) quoted' inside' :: rest =>
    if quoted' == quoted && inside' == inside then .run (.plain (c :: text)) quoted inside :: rest
    else .run (.plain [c]) quoted inside :: .run (.plain text) quoted' inside' :: rest
  | rest => .run (.plain [c]) quoted inside :: rest

/-- The bits of a value that takes part in the splitting into fields, or does not. -/
def ofPart (quoted splits : Bool) (value : Value) : List Bit :=
  let bits := ofRun quoted splits value
  if splits then .range false :: bits else bits

/-- The bits of a text. One that `splits` is a range. -/
def ofText (quoted splits : Bool) (text : Octets) : List Bit :=
  ofPart quoted splits (.plain text)

/-- The bits of the value of a parameter. One that is quoted leaves a trace also if it is empty. -/
def ofParameter (quoted : Bool) (value : Value) : List Bit :=
  if quoted && value.isEmpty then [.void] else ofPart quoted (!quoted) value

/-- The bits of a text that is put in. -/
def ofValue (quoted : Bool) (text : Octets) : List Bit :=
  ofParameter quoted (.plain text)

/-- The bits of values that fields end between. -/
def ofValues (quoted : Bool) (values : List Octets) : List Bit :=
  .range quoted :: [Bit.between].intercalate (values.map fun text => ofRun quoted true (.plain text))

/-- The characters of bits. -/
def marks (bits : List Bit) : List Mark :=
  bits.flatMap fun
    | .run value quoted _ => value.text.map (⟨·, quoted⟩)
    | _ => []

/-- The value of bits. -/
def value : List Bit → Value
  | [] => .plain []
  | .run first _ _ :: rest => first.append (Bit.value rest)
  | _ :: rest => Bit.value rest

/-- The text of bits. -/
def text (bits : List Bit) : Octets :=
  (Bit.value bits).text

/-- The parts of a text in a range: every separator for itself, and what is between separators. -/
def parts (separates : Char → Bool) : Octets → List (Bool × Octets)
  | [] => []
  | c :: rest =>
    if separates c then (true, [c]) :: parts separates rest
    else match parts separates rest with
      | (false, text) :: more => (false, c :: text) :: more
      | more => (false, [c]) :: more

end Bit

/-- The splitting of bits into fields. -/
structure Splitting where
  /-- The fields that have ended, the last one first. -/
  ended : List (List Bit) := []
  /-- The field under way, its last bit first. -/
  current : List Bit := []
  /-- How many bits there are in it. -/
  size : Nat := 0
  /-- Whether the last field has ended at a separator that shows as nothing. -/
  blank : Bool := false
  /-- Whether fields end only between parameters, in this range and in the one before. -/
  onlyBetween : Bool := false
  afterBetween : Bool := false
  /-- How many fields there may be yet, if this is bounded. The last one takes all that is left. -/
  left : Option Nat := none
  /-- How much there is of the last field if only separators follow. -/
  kept : Option Nat := none

namespace Splitting

/-- Whether a separator shows as nothing. -/
def isGap (c : Char) : Bool :=
  c == ' ' || c == '\t' || c == '\n'

/-- One more bit in the field under way. -/
def add (splitting : Splitting) (bit : Bit) : Splitting :=
  { splitting with current := bit :: splitting.current, size := splitting.size + 1 }

/-- One more bit that is in a range; fields end at it if it `separates`. -/
def visit (splitting : Splitting) (separates gap : Bool) (bit : Bit) : Splitting :=
  if splitting.left = some 0 then
    if gap then { splitting.add bit with kept := splitting.kept <|> some splitting.size }
    else
      let kept := if separates && splitting.blank then splitting.kept else none
      { splitting.add bit with kept, blank := false }
  else if splitting.blank then
    if separates then { splitting with current := [], size := 0, blank := gap }
    else { splitting with current := [bit], size := 1, blank := false }
  else if !separates then splitting.add bit
  else
    let blank := gap && !(splitting.afterBetween || splitting.onlyBetween)
    if splitting.current.isEmpty && blank then splitting
    else if splitting.left = some 1 then
      { splitting.add bit with left := some 0, kept := some splitting.size, blank }
    else
      { splitting with
        ended := splitting.current.reverse :: splitting.ended
        current := []
        size := 0
        left := splitting.left.map (· - 1)
        blank }

/-- One more bit. -/
def step (separators : Octets) (splitting : Splitting) (bit : Bit) : Splitting :=
  match bit with
  | .range onlyBetween =>
    { splitting with afterBetween := splitting.onlyBetween, onlyBetween, blank := false }
  | .between => splitting.visit true true bit
  | .run value quoted true =>
    if splitting.onlyBetween then splitting.visit false false bit
    else
      (Bit.parts separators.contains value.text).foldl (fun splitting (separates, part) =>
        splitting.visit separates (separates && part.any isGap) (.run (.plain part) quoted true)) splitting
  | _ => splitting.add bit

/-- The fields at the end of all bits. -/
def finish (splitting : Splitting) : List (List Bit) :=
  let bits := splitting.current.reverse
  let last := if splitting.onlyBetween then bits else splitting.kept.elim bits bits.take
  let lasts := if last.isEmpty && !splitting.onlyBetween then [] else [last]
  splitting.ended.reverse ++ lasts

end Splitting

/-- The fields of bits, `bound` of them at most if it is given. -/
def Bit.fields (separators : Octets) (bound : Option Nat) (bits : List Bit) : List (List Mark) :=
  ((bits.foldl (Splitting.step separators) { left := bound }).finish).map Bit.marks

example : (Bit.fields " :".toList none (Bit.ofText false true "a : b::c ".toList)).map Mark.text =
    ["a", "b", "", "c"].map String.toList := by decide +kernel

example : (Bit.fields " :".toList (some 2) (Bit.ofText false true " a : b:c ".toList)).map Mark.text =
    ["a", "b:c"].map String.toList := by decide +kernel

end PreMerge.Host
