/-! Blank characters. The white space of the character standard separates words on a line; a blank is
white space or one of the four information separators, which the rules and the trimming of settings
also pass over. -/

namespace PreMerge.Text

/-- The characters with the property of white space. -/
def isWhiteSpace (c : Char) : Bool :=
  let n := c.toNat
  (0x09 ≤ n && n ≤ 0x0D) || n == 0x20 || n == 0x85 || n == 0xA0 || n == 0x1680 ||
    (0x2000 ≤ n && n ≤ 0x200A) || n == 0x2028 || n == 0x2029 || n == 0x202F || n == 0x205F || n == 0x3000

/-- White space, or an information separator. -/
def isBlank (c : Char) : Bool :=
  isWhiteSpace c || (0x1C ≤ c.toNat && c.toNat ≤ 0x1F)

/-- A text without the blanks at its ends, for a notion of blank. -/
def trim (blank : Char → Bool) (text : List Char) : List Char :=
  ((text.dropWhile blank).reverse.dropWhile blank).reverse

theorem isBlank_of_isWhiteSpace {c : Char} (h : isWhiteSpace c = true) : isBlank c = true := by
  simp [isBlank, h]

example : isBlank '\u001C' = true ∧ isWhiteSpace '\u001C' = false ∧ isBlank '\u3000' = true := by decide
example : isBlank '\u200B' = false ∧ isBlank '\u0000' = false := by decide

end PreMerge.Text
