import PreMerge.Log
import PreMerge.Selection.Walk

/-! The candidates for a scan: the first files of a walk, up to the limit, all at once or one by one. -/

namespace PreMerge

namespace Walk

/-- The walk that has not yet read the root. -/
def fresh : Walk :=
  ⟨[], [[]]⟩

end Walk

namespace Selector

/-- The largest limit that can be counted to. -/
def greatestLimit : Int := 0x7FFFFFFFFFFFFFFF

/-- The limit of a selector, if it can be counted to. -/
def countable (selector : Selector) : Except Fault Nat :=
  if 0 ≤ selector.limit ∧ selector.limit ≤ greatestLimit then .ok selector.limit.toNat
  else .error (.ofText .value
    "Stop argument for islice() must be None or an integer: 0 <= x <= sys.maxsize.")

/-- The record of a walk that has more files than the limit. -/
def truncated (count : Nat) : Record :=
  ⟨.debug, .selector, "Candidate list truncated to the first " ++ toString count ++ " files"⟩

/-- The candidates below a root, with the records of their selection. A walk that has given as many files
as the limit is asked for one more. If no record can be written, `stamp` tells why. -/
def collect (selector : Selector) (tree : FileTree) (stamp : Option Fault := none) :
    Except Fault (List String × List Record) :=
  match selector.countable with
  | .error fault => .error fault
  | .ok limit =>
    let walked := selector.trace tree .fresh
    if limit < walked.1.length then
      match stamp with
      | some fault => .error fault
      | none => .ok (walked.1.take limit, [truncated limit])
    else match walked.2 with
      | some fault => .error fault
      | none => .ok (walked.1, [])

end Selector

/-- A selection under way: how many files may still come, and the walk they come from unless it has
ended. -/
structure Selection where
  left : Nat
  walk : Option Walk
  deriving DecidableEq, Repr

/-- Why nothing more comes from a selection. -/
inductive Stop
  | ended
  | failed (fault : Fault)
  deriving DecidableEq, Repr

/-- Files pulled from a selection, why there are no more if that was seen, and the selection after them. -/
structure Batch where
  files : List String
  stop : Option Stop
  selection : Selection
  deriving DecidableEq, Repr

namespace Selector

/-- The selection that has given no file yet. -/
def select (selector : Selector) : Except Fault Selection :=
  selector.countable.map fun limit => ⟨limit, some .fresh⟩

/-- At most so many files from a selection. Once it has ended it stays so. -/
def take (selector : Selector) (tree : FileTree) : Nat → Selection → Batch
  | 0, selection => ⟨[], none, selection⟩
  | _ + 1, ⟨0, walk⟩ => ⟨[], some .ended, ⟨0, walk⟩⟩
  | _ + 1, ⟨left + 1, none⟩ => ⟨[], some .ended, ⟨left + 1, none⟩⟩
  | count + 1, ⟨left + 1, some walk⟩ =>
    match selector.pull tree walk with
    | .found file later =>
      let rest := selector.take tree count ⟨left, some later⟩
      { rest with files := file :: rest.files }
    | .failed fault => ⟨[], some (.failed fault), ⟨left + 1, none⟩⟩
    | .ended => ⟨[], some .ended, ⟨left + 1, none⟩⟩

end Selector

end PreMerge
