import PreMerge.Host.Octets

/-! Options of programs: letters behind a dash, and words behind two of them, which may be cut short. They
may stand anywhere before the word that ends them. -/

namespace PreMerge.Host

/-- An option that was given, by its letter, with its value if it has one. -/
structure Given where
  letter : Char
  value : Option Octets := none
  deriving DecidableEq, Repr

namespace Options

/-- Why options cannot be read. -/
inductive Mistake
  | unknownLetter (c : Char)
  | unknownWord (word : Octets)
  /-- The start of several names. -/
  | ambiguous (word : Octets) (names : List String)
  | superfluous (word : Octets)
  deriving DecidableEq, Repr

/-- The words for a mistake. -/
def Mistake.message : Mistake → Octets
  | .unknownLetter c => "invalid option -- '".toList ++ [c, '\'']
  | .unknownWord word => "unrecognized option '".toList ++ word ++ ['\'']
  | .ambiguous word names =>
    "option '".toList ++ word ++ "' is ambiguous; possibilities:".toList ++
      names.flatMap fun name => " '--".toList ++ name.toList ++ ['\'']
  | .superfluous word => "option '".toList ++ word ++ "' doesn't allow an argument".toList

/-- The option that a word behind two dashes is, among those with the given names. Only options with a name
in `valued` may have a value. -/
def named (names : List (String × Char)) (valued : List String) (word : Octets) : Except Mistake Given :=
  let name := word.takeWhile (· != '=')
  let value := (Octets.splitAt? '=' word).map (·.2)
  let exact := names.filter fun (other, _) => other.toList = name
  let found := if exact.isEmpty then names.filter fun (other, _) => (Octets.after? name other.toList).isSome
    else exact
  match found with
  | [] => .error (.unknownWord ("--".toList ++ word))
  | (full, letter) :: others =>
    if others.any (·.2 != letter) then .error (.ambiguous ("--".toList ++ word) (found.map (·.1)))
    else if value.isSome && !(valued.contains full) then .error (.superfluous ("--".toList ++ full.toList))
    else .ok ⟨letter, value⟩

/-- The options among words, and the other words. -/
def read (letters : List Char) (names : List (String × Char)) (valued : List String) :
    List Octets → Except Mistake (List Given × List Octets)
  | [] => .ok ([], [])
  | word :: rest =>
    match word with
    | ['-', '-'] => .ok ([], rest)
    | '-' :: '-' :: name => do
      let given ← named names valued name
      let (options, operands) ← read letters names valued rest
      return (given :: options, operands)
    | '-' :: c :: more => do
      let given ← (c :: more).mapM fun c =>
        if letters.contains c then .ok ⟨c, none⟩ else .error (Mistake.unknownLetter c)
      let (options, operands) ← read letters names valued rest
      return (given ++ options, operands)
    | _ => do
      let (options, operands) ← read letters names valued rest
      return (options, word :: operands)

example : read "rf".toList [("recursive", 'r'), ("force", 'f')] [] ["-f".toList, "d".toList, "--rec".toList] =
    .ok ([⟨'f', none⟩, ⟨'r', none⟩], ["d".toList]) := by rfl

end Options

end PreMerge.Host
