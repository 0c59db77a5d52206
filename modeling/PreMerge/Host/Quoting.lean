import PreMerge.Host.Integer

/-! Texts in quotes: as the shell reads them back, and in messages. -/

namespace PreMerge.Host.Quoting

/-- Whether a character shows as it is. -/
def isShown (c : Char) : Bool :=
  ' ' ≤ c && c ≤ '~'

/-- Whether a character may stand at a place of a word without quotes. -/
def isPlain (isFirst isAlone : Bool) (c : Char) : Bool :=
  isShown c && !("!\"$&()*;<=>[^\x60|\\?' ".toList.contains c) && !(isFirst && "#~".toList.contains c) &&
    !(isAlone && "\x7b\x7d".toList.contains c)

/-- Whether a character may stand in double quotes as in single ones. -/
def isCommon (isFirst : Bool) (c : Char) : Bool :=
  c.isAlphanum || "%+,-./:]_ '".toList.contains c || (isFirst && "#~".toList.contains c)

/-- The escape of a character that does not show. -/
def escape (c : Char) : Octets :=
  match c with
  | '\u0007' => "\\a".toList
  | '\u0008' => "\\b".toList
  | '\t' => "\\t".toList
  | '\n' => "\\n".toList
  | '\u000B' => "\\v".toList
  | '\u000C' => "\\f".toList
  | '\r' => "\\r".toList
  | _ =>
    let digits := Integer.digits 8 c.toNat
    '\\' :: (List.replicate (3 - digits.length) '0' ++ digits)

/-- The inside of single quotes; `escaped` tells whether the last character was an escape. -/
def inside (escaped : Bool) : Octets → Octets
  | [] => []
  | c :: rest =>
    if !isShown c then (if escaped then [] else "'$'".toList) ++ escape c ++ inside true rest
    else (if escaped then "''".toList else []) ++ (if c = '\'' then "'\\''".toList else [c]) ++ inside false rest

/-- A text as the shell reads it back, in quotes only where it has to be unless `always`. -/
def shell (always : Bool) (text : Octets) : Octets :=
  let isAlone := text.length = 1
  let plain := match text with
    | [] => false
    | first :: rest => isPlain true isAlone first && rest.all (isPlain false false)
  if plain && !always then text
  else
    let common := match text with
      | [] => true
      | first :: rest => isCommon true first && rest.all (isCommon false)
    if text.contains '\'' && common then '"' :: text ++ ['"']
    else '\'' :: inside false text ++ ['\'']

/-- The name of a file in front of a colon. -/
def named (name : Octets) : Octets :=
  shell (name.contains ':') name

/-- A text in a message. -/
def message (text : Octets) : Octets :=
  let escaped := text.flatMap fun c =>
    if c = '\'' || c = '\\' then ['\\', c] else if isShown c then [c] else escape c
  '\'' :: escaped ++ ['\'']

example : shell false "it's".toList = "\"it's\"".toList ∧ shell true "f".toList = "'f'".toList ∧
    shell false "a\nb".toList = "'a'$'\\n''b'".toList := by decide +kernel

end PreMerge.Host.Quoting
