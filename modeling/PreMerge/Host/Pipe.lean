import PreMerge.Host.Octets

/-! Pipes: what is written to them is kept until it is read. A pipe may have room for so much only; what writes more
is stopped, as if what reads had gone away. What reads cannot tell then how it would have gone on. -/

namespace PreMerge.Host

/-- A pipe. -/
structure Pipe where
  /-- What is read next. -/
  ready : Octets := []
  /-- What was written after that, the last of it first. -/
  later : List Octets := []
  /-- How much may still be written, if this is bounded. -/
  room : Option Nat := none
  /-- Whether there would be more to read than there is. -/
  isCut : Bool := false

namespace Pipe

/-- A pipe that holds a text. -/
def ofText (text : Octets) : Pipe :=
  { ready := text }

/-- What there is to read. -/
def text (pipe : Pipe) : Octets :=
  pipe.ready.followedBy (pipe.later.foldl (fun rest text => text.followedBy rest) [])

/-- The pipe after a text is written to it. -/
def write (pipe : Pipe) (text : Octets) : Pipe :=
  match pipe.room with
  | none => { pipe with later := text :: pipe.later }
  | some room =>
    let size := text.length
    let fits := if size ≤ room then text else text.take room
    { pipe with later := fits :: pipe.later, room := some (room - size), isCut := room < size }

/-- The pipe after so many characters are read from it. -/
def advance (pipe : Pipe) (count : Nat) : Pipe :=
  { pipe with ready := pipe.text.drop count, later := [] }

theorem text_ofText (text : Octets) : (ofText text).text = text := rfl

theorem text_eq (pipe : Pipe) : pipe.text = pipe.ready ++ pipe.later.reverse.flatten := by
  simp [text, Octets.followedBy_eq]

/-- What is written comes after what is there already. -/
theorem text_write {pipe : Pipe} {text : Octets} (h : (pipe.write text).isCut = false) :
    (pipe.write text).text = pipe.text ++ text := by
  cases room : pipe.room with
  | none => simp [write, room, text_eq]
  | some room =>
    simp only [write, room, decide_eq_false_iff_not, Nat.not_lt] at h
    simp [write, room, text_eq, h]

theorem text_advance (pipe : Pipe) (count : Nat) : (pipe.advance count).text = pipe.text.drop count := rfl

end Pipe

end PreMerge.Host
