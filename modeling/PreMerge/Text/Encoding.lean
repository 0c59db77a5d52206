import PreMerge.Fault

/-! Encodings. Where a text leaves the program, as the name of a file or as output, it is written in an encoding, and that
may lack some of its characters: the name of a file that was never text is an example. -/

namespace PreMerge

/-- An encoding: its name, the characters that it has no bytes for, and the words by which it refuses them. -/
structure Encoding where
  name : String := "utf-8"
  lacks : Char → Bool := fun _ => false
  wording : String := "surrogates not allowed"

namespace Encoding

/-- Why a text cannot be encoded, if it cannot. The fault is about the first characters that are lacking. -/
def fault? (encoding : Encoding) (text : String) : Option Fault :=
  if text.toList.any encoding.lacks then
    let first : Int := (text.toList.takeWhile (!encoding.lacks ·)).length
    let rest := text.toList.dropWhile (!encoding.lacks ·)
    let stop : Int := first + (rest.takeWhile encoding.lacks).length
    some ⟨.encoding, [.text encoding.name, .text text, .whole first, .whole stop, .text encoding.wording]⟩
  else none

/-- The texts that are written before the first that cannot be encoded, and its fault. -/
def write (encoding : Encoding) : List String → List String × Option Fault
  | [] => ([], none)
  | text :: rest =>
    match encoding.fault? text with
    | some fault => ([], some fault)
    | none => (text :: (encoding.write rest).1, (encoding.write rest).2)

theorem fault?_eq_none_iff {encoding : Encoding} {text : String} :
    encoding.fault? text = none ↔ ∀ c ∈ text.toList, encoding.lacks c = false := by
  simp [fault?]

/-- An encoding that lacks nothing refuses nothing. -/
theorem fault?_of_full {encoding : Encoding} (h : ∀ c, encoding.lacks c = false) (text : String) :
    encoding.fault? text = none :=
  fault?_eq_none_iff.mpr fun c _ => h c

theorem kind_of_fault? {encoding : Encoding} {text : String} {fault : Fault} (h : encoding.fault? text = some fault) :
    fault.kind = .encoding := by
  unfold fault? at h
  split at h <;> cases h
  rfl

theorem write_of_taken {encoding : Encoding} {texts : List String} (h : ∀ text ∈ texts, encoding.fault? text = none) :
    encoding.write texts = (texts, none) := by
  induction texts with
  | nil => rfl
  | cons text rest ih =>
    rw [List.forall_mem_cons] at h
    rw [write, h.1, ih h.2]

theorem kind_of_write {encoding : Encoding} {texts : List String} {fault : Fault}
    (h : (encoding.write texts).2 = some fault) : fault.kind = .encoding := by
  induction texts with
  | nil => cases h
  | cons text rest ih =>
    rw [write] at h
    split at h
    · next other hother =>
      cases h
      exact kind_of_fault? hother
    · exact ih h

/-- What is written without a fault is all of it. -/
theorem eq_of_write {encoding : Encoding} {texts written : List String} (h : encoding.write texts = (written, none)) :
    written = texts := by
  induction texts generalizing written with
  | nil =>
    cases h
    rfl
  | cons text rest ih =>
    rw [write] at h
    split at h
    · cases h
    · obtain ⟨rfl, hrest⟩ := Prod.mk.inj h
      exact congrArg (text :: ·) (ih (Prod.ext rfl hrest))

example : (({ lacks := (· == '\uF7FF') } : Encoding).fault? "a\uF7FF.ts").map (·.message) =
    some "'utf-8' codec can't encode character '\\uf7ff' in position 1: surrogates not allowed" := by decide +kernel

end Encoding

end PreMerge
