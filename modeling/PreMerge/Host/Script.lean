import PreMerge.Host.Octets

/-! Scripts of the shell: commands, the words they consist of, and the parts of words. -/

namespace PreMerge.Host

/-- How a file is opened. -/
inductive Mode
  | input
  | output
  /-- As output, also where existing files are protected. -/
  | replace
  | append
  | both
  deriving DecidableEq, Repr

mutual

/-- A part of a word. -/
inductive Piece
  | text (quoted : Bool) (chars : Octets)
  | parameter (quoted : Bool) (name : Octets) (change : Change)
  /-- What a script prints. -/
  | output (quoted : Bool) (script : Script)
  /-- The value of an expression. -/
  | value (quoted : Bool) (expression : List Piece)
  /-- Braces that hold no parameter. -/
  | mistaken

/-- What is made of the value of a parameter. With `orEmpty`, an empty value is as good as none. -/
inductive Change
  | asIs
  | length
  /-- The word, if there is no value. -/
  | default (orEmpty : Bool) (word : List Piece)
  /-- The word, which the parameter is set to, if there is no value. -/
  | assign (orEmpty : Bool) (word : List Piece)
  /-- The end of the shell with the word as the reason, if there is no value. -/
  | demand (orEmpty : Bool) (word : List Piece)
  /-- The word, if there is a value. -/
  | instead (orEmpty : Bool) (word : List Piece)
  /-- The value and the word behind it, which end what the parameter is part of. -/
  | last (word : List Piece)
  /-- The value without what a pattern stands for at one of its ends. -/
  | trim (atEnd longest : Bool) (pattern : List Piece)

/-- What a stream is redirected to. -/
inductive Target
  | file (mode : Mode) (word : List Piece)
  | stream (word : List Piece)
  | document (text : List Piece)

/-- A redirection of one of the numbered streams. -/
inductive Redirect
  | mk (stream : Nat) (target : Target)

/-- A script. -/
inductive Script
  | nothing
  | simple (line : Nat) (assignments : List (Octets × List Piece)) (words : List (List Piece))
      (redirects : List Redirect)
  | sequence (first second : Script)
  | both (first second : Script)
  | either (first second : Script)
  | negation (script : Script)
  | pipe (parts : List Script)
  | background (script : Script)
  /-- A script in a shell of its own. -/
  | inner (line : Nat) (script : Script)
  | redirected (line : Nat) (script : Script) (redirects : List Redirect)
  | branch (condition yes no : Script)
  /-- A loop that goes on while its condition succeeds, or while it fails. -/
  | loop (onSuccess : Bool) (condition body : Script)
  /-- A loop over the fields of words. -/
  | each (line : Nat) (name : Octets) (words : List (List Piece)) (body : Script)
  /-- The script of the first pattern that a word matches. -/
  | choice (line : Nat) (word : List Piece) (cases : List (List (List Piece) × Script))
  | function (name : Octets) (body : Script)

end

/-- A word, part by part. -/
abbrev Word := List Piece

instance : Inhabited Script := ⟨.nothing⟩

namespace Word

/-- The text of a word without quotes and expansions. -/
def bare? : Word → Option Octets
  | [.text false text] => some text
  | _ => none

/-- Whether a part of a word is quoted. -/
def hasQuotes (word : Word) : Bool :=
  word.any fun
    | .text quoted _ => quoted
    | _ => false

/-- The characters of a word in which nothing is put in, without quotes. -/
def characters (word : Word) : Octets :=
  word.flatMap fun
    | .text _ text => text
    | _ => []

/-- A word with one more part in front; texts that are not quoted are put together. -/
def cons (piece : Piece) (word : Word) : Word :=
  match piece, word with
  | .text false text, .text false more :: rest => .text false (text ++ more) :: rest
  | _, _ => piece :: word

/-- The parts of a word between double quotes, as parts of a longer word. The quotes leave a trace even if nothing
comes out between them, unless there is nothing but all parameters. -/
def inQuotes : Word → Word
  | [.parameter quoted ['@'] .asIs] => [.parameter quoted ['@'] .asIs]
  | pieces => .text true [] :: pieces ++ [.text true []]

/-- The name and the value that an assignment consists of. -/
def assignment? : Word → Option (Octets × Word)
  | .text false text :: more =>
    match Octets.splitAt? '=' text with
    | some (name, value) =>
      if Octets.isName name then
        some (name, if value = [] then more else .text false value :: more)
      else none
    | none => none
  | _ => none

end Word

namespace Script

/-- The builtin commands that an error in them ends the shell, and that keep what is assigned in front of
them. No function can have the name of one of them. -/
def special : List String :=
  [".", ":", "break", "continue", "eval", "exec", "exit", "export", "local", "readonly", "return", "set",
    "shift", "times", "trap", "unset"]

/-- One script after another. -/
def followedBy : Script → Script → Script
  | .nothing, second => second
  | first, .nothing => first
  | first, second => .sequence first second

end Script

end PreMerge.Host
