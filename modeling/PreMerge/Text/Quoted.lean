import PreMerge.Text.Printable

/-! Quoted texts, as messages show names and paths: between single quotes, or between double quotes if
the text holds a single quote and no double one. The quote and the backslash are escaped, line ends and
tabs have letters, and every other character that is not printable is given by its number. -/

namespace PreMerge.Text

/-- The quote that surrounds a text. -/
def quoteFor (text : List Char) : Char :=
  if text.contains '\'' && !text.contains '"' then '"' else '\''

/-- The last digits of a number in base sixteen. -/
def hexadecimal : Nat → Nat → List Char
  | 0, _ => []
  | digits + 1, n => hexadecimal digits (n / 16) ++ [Nat.digitChar (n % 16)]

/-- A character by its number, in as many digits as it takes. -/
def numbered (c : Char) : List Char :=
  if c.toNat < 0x100 then '\\' :: 'x' :: hexadecimal 2 c.toNat
  else if c.toNat < 0x10000 then '\\' :: 'u' :: hexadecimal 4 c.toNat
  else '\\' :: 'U' :: hexadecimal 8 c.toNat

/-- How one character is written between quotes. -/
def escapeChar (quote c : Char) : List Char :=
  if c = quote ∨ c = '\\' then ['\\', c]
  else if c = '\n' then ['\\', 'n']
  else if c = '\r' then ['\\', 'r']
  else if c = '\t' then ['\\', 't']
  else if isPrintable c then [c]
  else numbered c

/-- A text between quotes. -/
def quoted (text : String) : String :=
  let quote := quoteFor text.toList
  String.ofList (quote :: text.toList.flatMap (escapeChar quote) ++ [quote])

example : quoted "it's" = "\"it's\"" ∧ quoted "a\"b'c" = "'a\"b\\'c'" := by decide +kernel
example : quoted "\u0007\u00A0\u200B😀\\" = "'\\x07\\xa0\\u200b😀\\\\'" := by decide +kernel

end PreMerge.Text
