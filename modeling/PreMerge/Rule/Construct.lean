import PreMerge.Text.Blank
import PreMerge.Text.Word

/-! The forbidden constructs and how each is recognised where it starts. None of them ever has to be
tried twice at one place: what follows a run of blanks, or the inside of a parenthesis, is never part of
the run, so the longest run is the only one to consider. -/

namespace PreMerge

open Text (isBlank isWord endsWord)

/-- A construct that must not be merged. -/
inductive Construct
  /-- A cast to `any`. -/
  | castToAny
  /-- A comment that switches the type checker off. -/
  | checkerDirective
  /-- A message to the console. -/
  | consoleMessage
  /-- A dialog of the browser. -/
  | nativeDialog
  /-- A handler that swallows what it catches. -/
  | emptyHandler
  deriving DecidableEq, Repr

namespace Construct

/-- A place in a text: how many characters come before it, and those behind it. -/
structure Place where
  passed : Nat
  rest : List Char
  deriving DecidableEq, Repr

namespace Place

/-- The place behind a given word. -/
@[inline] def after (word : String) (place : Place) : Option Place :=
  (word.toList.isPrefixOf? place.rest).map fun rest => ⟨place.passed + word.length, rest⟩

/-- The place behind all characters of a kind. -/
@[inline] def past (isPassed : Char → Bool) (place : Place) : Place :=
  go place.passed place.rest
where
  /-- The place behind all characters of the kind at the start of a text. -/
  @[specialize] go (passed : Nat) : List Char → Place
    | [] => ⟨passed, []⟩
    | c :: rest => if isPassed c then go (passed + 1) rest else ⟨passed, c :: rest⟩

/-- The place behind at least one blank and all that follow it. -/
def afterBlanks (place : Place) : Option Place :=
  if place.rest.head?.any isBlank then some (place.past isBlank) else none

/-- The place itself, if no word goes on there. -/
def atWordEnd (place : Place) : Option Place :=
  if endsWord place.rest.head? then some place else none

theorem past_eq (isPassed : Char → Bool) (place : Place) :
    place.past isPassed =
      ⟨place.passed + (place.rest.takeWhile isPassed).length, place.rest.dropWhile isPassed⟩ := by
  have onward : ∀ (text : List Char) (passed : Nat),
      past.go isPassed passed text = ⟨passed + (text.takeWhile isPassed).length, text.dropWhile isPassed⟩ := by
    intro text
    induction text with
    | nil => simp [past.go]
    | cons c rest ih =>
      intro passed
      cases h : isPassed c with
      | false => simp [past.go, h]
      | true => simp [past.go, h, ih, Nat.add_comm, Nat.add_left_comm]
  exact onward place.rest place.passed

theorem isPrefixOf?_eq_some_iff {word text rest : List Char} :
    word.isPrefixOf? text = some rest ↔ text = word ++ rest := by
  induction word generalizing text with
  | nil =>
    have all : ([] : List Char).isPrefixOf? text = some text := by cases text <;> rfl
    simp [all, eq_comm]
  | cons c word ih =>
    cases text with
    | nil =>
      have none : (c :: word).isPrefixOf? [] = none := rfl
      simp [none]
    | cons d text =>
      have step : (c :: word).isPrefixOf? (d :: text) = if c == d then word.isPrefixOf? text else none := rfl
      rw [step]
      by_cases h : c = d
      · simp [h, ih]
      · simp [h, Ne.symm h]

theorem after_eq_some_iff {word : String} {place later : Place} :
    place.after word = some later ↔
      place.rest = word.toList ++ later.rest ∧ later.passed = place.passed + word.length := by
  obtain ⟨passed, rest⟩ := later
  simp only [after, Option.map_eq_some_iff, isPrefixOf?_eq_some_iff, Place.mk.injEq]
  constructor
  · rintro ⟨rest, whole, rfl, rfl⟩
    exact ⟨whole, rfl⟩
  · rintro ⟨whole, rfl⟩
    exact ⟨rest, whole, rfl, rfl⟩

end Place

/-- The place behind the construct, if it starts at this one. The character before decides whether a word may
start. -/
def behind? (construct : Construct) (before : Option Char) (place : Place) : Option Place :=
  match construct with
  | .castToAny => do
    let place ← place.after "as"
    guard (endsWord before)
    let place ← place.afterBlanks
    let place ← place.after "any"
    place.atWordEnd
  | .checkerDirective =>
    place.after "@ts-ignore" <|> place.after "@ts-expect-error"
  | .consoleMessage => do
    let place ← place.after "console.log"
    guard (endsWord before)
    place.atWordEnd
  | .nativeDialog => do
    let place ← place.after "window.alert" <|> place.after "window.confirm"
    guard (endsWord before)
    place.atWordEnd
  | .emptyHandler => do
    let place ← place.after "catch"
    let place ← (place.past isBlank).after "("
    let place ← (place.past (· != ')')).after ")"
    let place ← (place.past isBlank).after "\x7b"
    (place.past isBlank).after "\x7d"

/-- How long the construct is that starts with a text, if one does. -/
def length? (construct : Construct) (before : Option Char) (text : List Char) : Option Nat :=
  (construct.behind? before ⟨0, text⟩).map (·.passed)

end Construct

end PreMerge
