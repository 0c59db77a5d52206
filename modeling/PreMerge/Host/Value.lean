import PreMerge.Host.Octets

/-! Values of variables. One that is put together from others holds them as they are, so that a script can let a
long value grow bit by bit. Main statement: the text of such a value is that of its parts (`text_append`). -/

namespace PreMerge.Host

/-- A value: a text, or a value with another behind it. -/
inductive Value
  | plain (text : Octets)
  | joined (first second : Value)
  deriving DecidableEq, Repr

namespace Value

/-- The text of a value with another text behind it. -/
def textBefore : Value → Octets → Octets
  | .plain text, rest => text.followedBy rest
  | .joined first second, rest => first.textBefore (second.textBefore rest)

/-- The text of a value. -/
def text (value : Value) : Octets :=
  value.textBefore []

/-- Whether there is no text in a value. -/
def isEmpty : Value → Bool
  | .plain text => text.isEmpty
  | .joined first second => second.isEmpty && first.isEmpty

/-- A value with another behind it. -/
def append : Value → Value → Value
  | .plain [], second => second
  | first, .plain [] => first
  | first, second => .joined first second

@[simp] theorem text_plain (given : Octets) : (plain given).text = given := rfl

theorem textBefore_eq (value : Value) (rest : Octets) : value.textBefore rest = value.text ++ rest := by
  induction value generalizing rest with
  | plain given => exact given.followedBy_eq rest
  | joined first second ihFirst ihSecond =>
    rw [text, textBefore, textBefore, ihSecond, ihFirst, ihFirst (second.textBefore []), List.append_assoc]
    rfl

@[simp] theorem text_joined (first second : Value) : (joined first second).text = first.text ++ second.text :=
  textBefore_eq first second.text

@[simp] theorem text_append (first second : Value) : (first.append second).text = first.text ++ second.text := by
  unfold append
  split <;> simp

theorem isEmpty_iff (value : Value) : value.isEmpty = true ↔ value.text = [] := by
  induction value with
  | plain given => simp [isEmpty]
  | joined first second ihFirst ihSecond => simp [isEmpty, ihFirst, ihSecond, and_comm]

end Value

end PreMerge.Host
