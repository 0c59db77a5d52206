import PreMerge.Text.Pieces

/-! The physical lines of a text, numbered as an editor numbers them. Lines end at a line feed; one
carriage return before it belongs to the line end, and so does one at the very end of the text. A text
that ends in a line feed has no further empty line. -/

namespace PreMerge.Text

/-- A line without the carriage return that may end it. -/
def dropReturn (line : List Char) : List Char :=
  if line.getLast? = some '\r' then line.dropLast else line

/-- Pieces without the empty one that a final separator leaves. -/
def dropEmptyLast (ps : List (List Char)) : List (List Char) :=
  if ps.getLast? = some [] then ps.dropLast else ps

/-- The physical lines, without their line ends. -/
def physicalLines (content : List Char) : List (List Char) :=
  (dropEmptyLast (pieces '\n' content)).map dropReturn

example : physicalLines [] = [] ∧ physicalLines ['\n'] = [[]] ∧ physicalLines ['\r'] = [[]] := by decide
example : physicalLines "a\r\r\nb\rc\n\nd".toList = ["a\r".toList, "b\rc".toList, [], ['d']] := by decide

end PreMerge.Text
