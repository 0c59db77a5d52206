/-! Texts without escape sequences. A sequence starts with the escape character and a bracket, goes on with
parameters and then with intermediate characters, and ends with one final character. -/

namespace PreMerge.Text

/-- Whether a character lies between two others. -/
def isBetween (first last c : Char) : Bool :=
  first ≤ c && c ≤ last

/-- How many characters after the escape character belong to a sequence; none if it is not complete. -/
def sequenceLength : List Char → Nat
  | '[' :: rest =>
    let parameters := rest.takeWhile (isBetween '0' '?')
    let intermediates := (rest.dropWhile (isBetween '0' '?')).takeWhile (isBetween ' ' '/')
    match (rest.dropWhile (isBetween '0' '?')).dropWhile (isBetween ' ' '/') with
    | c :: _ => if isBetween '@' '~' c then parameters.length + intermediates.length + 2 else 0
    | [] => 0
  | _ => 0

/-- A text without its escape sequences and without its first `skipped` characters. -/
def escapeless (skipped : Nat) : List Char → List Char
  | [] => []
  | c :: rest =>
    match skipped with
    | left + 1 => escapeless left rest
    | 0 =>
      if c = '\u001B' ∧ sequenceLength rest ≠ 0 then escapeless (sequenceLength rest) rest
      else c :: escapeless 0 rest

/-- A text without its escape sequences. -/
def withoutEscapes (text : String) : String :=
  String.ofList (escapeless 0 text.toList)

/-- A text without the escape character has no sequence. -/
theorem escapeless_of_notMem {cs : List Char} (h : '\u001B' ∉ cs) : escapeless 0 cs = cs := by
  induction cs with
  | nil => rfl
  | cons c rest ih =>
    simp only [List.mem_cons, not_or] at h
    rw [escapeless, if_neg (fun both => h.1 both.1.symm), ih h.2]

example : withoutEscapes "a\u001B[1;31mb\u001B[é\u001B[" = "ab\u001B[é\u001B[" := by decide +kernel
example : withoutEscapes "x\u001B[2 qy\u001B\u001B[mz" = "xy\u001Bz" := by decide +kernel

end PreMerge.Text
