import PreMerge.Text.Pieces
import PreMerge.Text.Width

/-! The console. A line is printed as it is, however long, except that some control characters are left
out and tabs become spaces up to the next of the columns that are eight apart. With colours, each part of
a line is put between the codes of its style. Only words that are to be wrapped are broken into rows where the
console ends. -/

namespace PreMerge

/-- How a line looks. -/
inductive Style
  | plain
  | bold
  | dim
  | red
  | green
  | yellow
  | cyan
  | boldGreen
  | boldRed
  deriving DecidableEq, Repr

/-- The codes that switch a style on. -/
def Style.codes : Style → String
  | .plain => ""
  | .bold => "1"
  | .dim => "2"
  | .red => "31"
  | .green => "32"
  | .yellow => "33"
  | .cyan => "36"
  | .boldGreen => "1;32"
  | .boldRed => "1;31"

/-- One thing that is printed. -/
inductive Print
  | blank
  | rule
  | line (words : String) (style : Style)
  /-- Words of one column a character, a space between them, in rows that end where the console does. -/
  | wrapped (words : List String)
  /-- Text that reaches the output unchanged. -/
  | raw (words : String)
  deriving DecidableEq, Repr

/-- A console: its columns, and whether it shows colours. -/
structure Console where
  width : Nat := 80
  colored : Bool := false
  deriving DecidableEq, Repr

namespace Console

/-- How many columns there are between tab stops. -/
def tabWidth : Nat := 8

/-- Whether a character is left out of lines. -/
def isDropped (c : Char) : Bool :=
  c == '\u0007' || c == '\u0008' || c == '\u000B' || c == '\u000C' || c == '\u000D'

/-- How many columns a text falls short of a tab stop. -/
def shortfall (cs : List Char) : Nat :=
  (tabWidth - Text.columns cs % tabWidth) % tabWidth

/-- A part with a tab at its end: the tab is one space, and as many more as the tab stop asks for. -/
def fill (part : List Char) : List Char :=
  part ++ ' ' :: List.replicate (shortfall (part ++ [' '])) ' '

/-- The parts of a line: one for each tab, filled up to the tab stop, and what comes after the last. -/
def fillTabs : List (List Char) → List (List Char)
  | [] => []
  | [last] => [last]
  | part :: next :: rest => fill part :: fillTabs (next :: rest)

/-- Characters between the codes of their style. -/
def styled (console : Console) (style : Style) (cs : List Char) : List Char :=
  if console.colored = false ∨ style = .plain ∨ cs = [] then cs
  else '\u001B' :: '[' :: style.codes.toList ++ 'm' :: cs ++ "\u001B[0m".toList

/-- One line as it is printed. -/
def lineText (console : Console) (style : Style) (line : List Char) : List Char :=
  (fillTabs (Text.pieces '\t' line)).flatMap (console.styled style) ++ ['\n']

/-- Characters in rows of so many, the first of which holds some already. -/
def chop (width : Nat) (row : List Char) : List Char → List (List Char)
  | [] => [row]
  | c :: rest => if row.length < width then chop width (row ++ [c]) rest else row :: chop width [c] rest

/-- Words in rows, the first of which holds some already. A word that does not fit in a row starts the next one, and one
that is longer than any row is chopped. A row may have a space more than the console has columns. -/
def rows (width : Nat) (row : List Char) : List (List Char) → List (List Char)
  | [] => [row]
  | word :: rest =>
    let spaced := if rest.isEmpty then word else word ++ [' ']
    if row.length + word.length ≤ width then rows width (row ++ spaced) rest
    else if word.length ≤ width then row :: rows width spaced rest
    else
      let chopped := chop width [] spaced
      (if row.isEmpty then [] else [row]) ++ chopped.dropLast ++ rows width (chopped.getLast?.getD []) rest

/-- What is printed as it appears on the console. Without columns there is room for raw text only. -/
def render (console : Console) : Print → List Char
  | .raw words => words.toList
  | .blank => if console.width = 0 then [] else ['\n']
  | .rule =>
    if console.width = 0 then []
    else console.styled .cyan (List.replicate console.width '─') ++ ['\n']
  | .line words style =>
    if console.width = 0 then []
    else (Text.pieces '\n' (words.toList.filter (!isDropped ·))).flatMap (console.lineText style)
  | .wrapped words =>
    if console.width = 0 then []
    else (rows console.width [] (words.map String.toList)).flatMap (·.take console.width ++ ['\n'])

/-- The text on the console. -/
def text (console : Console) (prints : List Print) : String :=
  String.ofList (prints.flatMap console.render)

/-- A part with a tab ends at a tab stop. -/
theorem columns_add_shortfall (cs : List Char) : tabWidth ∣ Text.columns cs + shortfall cs := by
  simp only [shortfall, tabWidth]
  omega

end Console

end PreMerge
