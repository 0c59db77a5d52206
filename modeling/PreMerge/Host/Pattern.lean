import PreMerge.Host.Octets

/-! Patterns for texts and for names of files: a star for any characters, a question mark for one, and a set
of characters in brackets. A character that was quoted stands for itself. -/

namespace PreMerge.Host

/-- A character of a pattern, and whether it was quoted. -/
structure Mark where
  char : Char
  quoted : Bool
  deriving DecidableEq, Repr, Inhabited

namespace Mark

/-- Whether a mark is an unquoted character. -/
def isBare (c : Char) (mark : Mark) : Bool :=
  !mark.quoted && mark.char == c

/-- The characters of marks. -/
def text (marks : List Mark) : Octets :=
  marks.map (·.char)

/-- A text all of whose characters are quoted. -/
def quote (text : Octets) : List Mark :=
  text.map fun c => ⟨c, true⟩

end Mark

namespace Pattern

/-- A range of characters, or a class of them by name. -/
inductive Member
  | range (first last : Char)
  | named (name : Octets)
  deriving DecidableEq, Repr

/-- A part of a pattern. -/
inductive Part
  | any
  | one
  | char (c : Char)
  | set (negated : Bool) (members : List Member)
  deriving DecidableEq, Repr

/-- Whether a character belongs to the class of a name. -/
def inClass (name : Octets) (c : Char) : Bool :=
  match String.ofList name with
  | "alpha" => c.isAlpha
  | "digit" => c.isDigit
  | "alnum" => c.isAlphanum
  | "upper" => c.isUpper
  | "lower" => c.isLower
  | "space" => Octets.isBlank c
  | "blank" => c == ' ' || c == '\t'
  | "punct" => '!' ≤ c && c ≤ '~' && !c.isAlphanum
  | "print" => ' ' ≤ c && c ≤ '~'
  | "graph" => '!' ≤ c && c ≤ '~'
  | "cntrl" => c < ' ' || c == '\u007F'
  | "xdigit" => c.isDigit || ('a' ≤ c && c ≤ 'f') || ('A' ≤ c && c ≤ 'F')
  | _ => false

/-- The names of the classes. -/
def classNames : List Octets :=
  ["alpha", "digit", "alnum", "upper", "lower", "space", "blank", "punct", "print", "graph", "cntrl",
    "xdigit"].map String.toList

/-- Whether a character is one of a member's. -/
def Member.has (c : Char) : Member → Bool
  | .range first last => first ≤ c && c ≤ last
  | .named name => inClass name c

/-- The class at the start of marks, behind its bracket, and how many marks it takes. -/
def className? (marks : List Mark) : Option (Octets × Nat) :=
  match marks with
  | ⟨':', false⟩ :: rest =>
    let name := Mark.text (rest.takeWhile fun mark => mark.char.isAlpha)
    match rest.drop name.length with
    | ⟨':', _⟩ :: ⟨']', false⟩ :: _ => if name ∈ classNames then some (name, name.length + 3) else none
    | _ => none
  | _ => none

/-- What a pattern is from one of its marks on. -/
structure Suffix where
  /-- The parts of the pattern. -/
  parts : List Part := []
  /-- If the mark is in a set, the members that the set has yet, and the parts behind it. -/
  members : Option (List Member × List Part) := none

/-- The members of a set from a mark on that does not close it. `later` is what the pattern is from each mark of
`rest` on, which follows. -/
def membersFrom (mark : Mark) (rest : List Mark) (later : List Suffix) : Option (List Member × List Part) :=
  match if mark.isBare '[' then className? rest else none with
  | some (name, used) => onward (.named name) used
  | none =>
    let (first, used) := match mark, rest with
      | ⟨'\\', false⟩, next :: _ => (next.char, 1)
      | _, _ => (mark.char, 0)
    match rest.drop used with
    | dash :: last :: more =>
      if dash.isBare '-' && !last.isBare ']' then
        match last, more with
        | ⟨'\\', false⟩, next :: _ => onward (.range first next.char) (used + 3)
        | _, _ => onward (.range first last.char) (used + 2)
      else onward (.range first first) used
    | _ => onward (.range first first) used
where
  /-- A member in front of those behind some marks. -/
  onward (member : Member) (used : Nat) : Option (List Member × List Part) :=
    (later[used]?.bind (·.members)).map fun (more, parts) => (member :: more, parts)

/-- The set behind an opening bracket, and the parts behind it. A closing bracket that comes first is a member. -/
def setFrom (rest : List Mark) (later : List Suffix) : Option (Part × List Part) :=
  match rest with
  | ⟨'!', false⟩ :: first :: more =>
    (membersFrom first more (later.drop 2)).map fun (members, parts) => (.set true members, parts)
  | first :: more =>
    (membersFrom first more (later.drop 1)).map fun (members, parts) => (.set false members, parts)
  | [] => none

/-- The parts of a pattern from a mark on. -/
def partsFrom (mark : Mark) (rest : List Mark) (later : List Suffix) : List Part :=
  let next := (later.headD {}).parts
  if mark.isBare '*' then .any :: next
  else if mark.isBare '?' then .one :: next
  else if mark.isBare '[' then
    match setFrom rest later with
    | some (part, parts) => part :: parts
    | none => .char '[' :: next
  else if mark.isBare '\\' then
    match rest with
    | quoted :: _ => .char quoted.char :: ((later.drop 1).headD {}).parts
    | [] => [.char '\\']
  else .char mark.char :: next

/-- What a pattern is from each of its marks on, and at its end. -/
def suffixes : List Mark → List Suffix
  | [] => [{}]
  | mark :: rest =>
    let later := suffixes rest
    let members :=
      if mark.isBare ']' then some ([], (later.headD {}).parts) else membersFrom mark rest later
    { parts := partsFrom mark rest later, members } :: later

/-- The pattern of marks. -/
def ofMarks (marks : List Mark) : List Part :=
  ((suffixes marks).headD {}).parts

/-- Whether a part of a pattern other than the star stands for a character. -/
def Part.has (c : Char) : Part → Bool
  | .any | .one => true
  | .char d => c == d
  | .set negated members => members.any (·.has c) != negated

/-- The parts of a pattern before the first star, and those behind each star. -/
def pieces : List Part → List Part × List (List Part)
  | [] => ([], [])
  | .any :: rest =>
    let (first, others) := pieces rest
    ([], first :: others)
  | part :: rest =>
    let (first, others) := pieces rest
    (part :: first, others)

/-- What follows in a text that starts with what parts without a star stand for. -/
def after? : List Part → Octets → Option Octets
  | [], text => some text
  | _ :: _, [] => none
  | part :: rest, c :: text => if part.has c then after? rest text else none

/-- What follows the first place in a text for parts without a star. -/
def afterFirst? (parts : List Part) : Octets → Option Octets
  | [] => after? parts []
  | c :: text =>
    match after? parts (c :: text) with
    | some rest => some rest
    | none => afterFirst? parts text

/-- What follows the last place in a text for parts without a star. -/
def afterLast? (parts : List Part) : Octets → Option Octets
  | [] => after? parts []
  | c :: text =>
    match afterLast? parts text with
    | some rest => some rest
    | none => after? parts (c :: text)

/-- What is left of a text behind the shortest or the longest start that a pattern stands for. The parts between stars
are taken as early as they come. -/
def rest? (longest : Bool) (pattern : List Part) (text : Octets) : Option Octets :=
  let (first, others) := pieces pattern
  (after? first text).bind (behind others)
where
  /-- What is left behind the places for parts with a star before each. -/
  behind : List (List Part) → Octets → Option Octets
    | [], text => some text
    | [parts], text => if longest then afterLast? parts text else afterFirst? parts text
    | parts :: others, text => (afterFirst? parts text).bind (behind others)

/-- Whether a text is one that a pattern stands for. -/
def accepts (pattern : List Part) (text : Octets) : Bool :=
  (rest? true pattern text).any List.isEmpty

/-- Whether marks are a pattern for more than one text. -/
def isProper (marks : List Mark) : Bool :=
  marks.any (fun mark => mark.isBare '*' || mark.isBare '?' || mark.isBare '[') && (ofMarks marks).any fun
    | .char _ => false
    | _ => true

theorem pieces_chars (text : Octets) : pieces (text.map Part.char) = (text.map Part.char, []) := by
  induction text with
  | nil => rfl
  | cons c rest ih => simp [pieces, ih]

theorem after?_chars (text other : Octets) : after? (text.map Part.char) other = some [] ↔ other = text := by
  induction text generalizing other with
  | nil => simp [after?]
  | cons c rest ih => cases other <;> simp [after?, Part.has, ih]

theorem accepts_chars (text other : Octets) :
    accepts (text.map Part.char) other = true ↔ other = text := by
  rw [← after?_chars]
  cases h : after? (text.map Part.char) other <;> simp [accepts, rest?, pieces_chars, h, rest?.behind]

/-- A quoted text is a pattern for itself only. -/
theorem ofMarks_quote (text : Octets) : ofMarks (Mark.quote text) = text.map Part.char := by
  induction text with
  | nil => rfl
  | cons c rest ih =>
    simpa [ofMarks, Mark.quote, suffixes, partsFrom, Mark.isBare] using ih

end Pattern

end PreMerge.Host
