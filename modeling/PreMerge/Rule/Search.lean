import PreMerge.Rule.Construct

/-! Finding a construct in a text. Matches are taken from the left, each at the first place where one
starts after the end of the one before, so no two of them overlap. -/

namespace PreMerge

/-- A stretch of a text, by how many characters come before it and its own. -/
structure Span where
  start : Nat
  text : List Char
  deriving DecidableEq, Repr

/-- The place behind a span. -/
def Span.stop (span : Span) : Nat :=
  span.start + span.text.length

namespace Construct

/-- The spans from place `start` on, with the character before it; the first `skip` characters belong to
a span already found. -/
def spansFrom (construct : Construct) (start : Nat) (before : Option Char) :
    (skip : Nat) → List Char → List Span
  | _, [] => []
  | skip + 1, c :: text => construct.spansFrom (start + 1) (some c) skip text
  | 0, c :: text =>
    match construct.length? before (c :: text) with
    | some length =>
      ⟨start, (c :: text).take length⟩ :: construct.spansFrom (start + 1) (some c) (length - 1) text
    | none => construct.spansFrom (start + 1) (some c) 0 text

/-- The spans of a construct in a text. -/
def spans (construct : Construct) (text : List Char) : List Span :=
  construct.spansFrom 0 none 0 text

end Construct

example : Construct.castToAny.spans "as as  any;as any".toList =
    [⟨3, "as  any".toList⟩, ⟨11, "as any".toList⟩] := by decide +kernel
example : Construct.castToAny.spans "was any, as anyone".toList = [] := by decide +kernel
example : (Construct.emptyHandler.spans "catch(catch (e)\n\x7b \x7d\x7d".toList).map Span.stop = [19] := by
  decide +kernel

end PreMerge
