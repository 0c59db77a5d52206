/-! Trees of files. A directory is a list of named nodes, of which the first of a name counts. Main
statement: what the names of a directory lead to is no larger than the directory (`sum_names_le`), so
that going down a tree ends. -/

namespace PreMerge

/-- A file with its bytes and the permission to run it, a symbolic link, or a directory. -/
inductive Node
  | file (content : ByteArray) (runnable : Bool)
  | link (target : String)
  | directory (entries : List (String × Node))
  deriving Inhabited

namespace Node

/-- A file that holds some bytes. -/
def ofBytes (bytes : List UInt8) (runnable : Bool := false) : Node :=
  .file ⟨bytes.toArray⟩ runnable

/-- The directory without entries. -/
def empty : Node :=
  .directory []

/-- The first entry of a name. -/
def find? (name : String) : List (String × Node) → Option Node
  | [] => none
  | (other, node) :: rest => if other = name then some node else find? name rest

/-- The names of entries, each once. -/
def names : List (String × Node) → List String
  | [] => []
  | (name, _) :: rest => name :: (names rest).filter (· != name)

/-- The node at the end of a chain of names. -/
def at? : List String → Node → Option Node
  | [], node => some node
  | name :: rest, .directory entries => (find? name entries).bind (at? rest)
  | _ :: _, _ => none

mutual

/-- How many entries lie below a node. -/
def weight : Node → Nat
  | .directory entries => weightAll entries
  | .file _ _ => 0
  | .link _ => 0

/-- How many entries there are, with those below them. -/
def weightAll : List (String × Node) → Nat
  | [] => 0
  | (_, node) :: rest => 1 + weight node + weightAll rest

end

/-- Entries with the first of a name changed, or with a new one at the end. -/
def alter (name : String) (change : Option Node → Node) : List (String × Node) → List (String × Node)
  | [] => [(name, change none)]
  | (other, node) :: rest =>
    if other = name then (other, change (some node)) :: rest else (other, node) :: alter name change rest

/-- A tree with a node placed at the end of a chain of names; directories on the way are made. -/
def put : List String → Node → Node → Node
  | [], _, new => new
  | name :: rest, .directory entries, new =>
    .directory (alter name (fun old => put rest (old.getD empty) new) entries)
  | _ :: _, old, _ => old

/-- A tree without what is at the end of a chain of names. -/
def erase : List String → Node → Node
  | [], node => node
  | [name], .directory entries => .directory (entries.filter (·.1 != name))
  | name :: rest, .directory entries =>
    .directory (match find? name entries with
      | some old => alter name (fun _ => erase rest old) entries
      | none => entries)
  | _ :: _, node => node

theorem at?_append (xs ys : List String) (node : Node) :
    node.at? (xs ++ ys) = (node.at? xs).bind (at? ys) := by
  induction xs generalizing node with
  | nil => simp [at?]
  | cons name rest ih =>
    cases node with
    | directory entries =>
      simp only [List.cons_append, at?, Option.bind_assoc]
      congr 1
      funext child
      exact ih child
    | file => simp [at?]
    | link => simp [at?]

theorem at?_single {node : Node} {name : String} :
    node.at? [name] = match node with
      | .directory entries => find? name entries
      | _ => none := by
  cases node <;> simp [at?]

/-- How much there is below the first entry of a name. -/
def weightOf (entries : List (String × Node)) (name : String) : Nat :=
  ((find? name entries).map weight).getD 0

/-- The sum of what is counted for each element of a list. -/
def sumOf {α : Type} (count : α → Nat) : List α → Nat
  | [] => 0
  | x :: rest => count x + sumOf count rest

theorem sumOf_append {α : Type} (count : α → Nat) (xs ys : List α) :
    sumOf count (xs ++ ys) = sumOf count xs + sumOf count ys := by
  induction xs with
  | nil => simp [sumOf]
  | cons x rest ih => simp only [List.cons_append, sumOf, ih, Nat.add_assoc]

theorem sumOf_perm {α : Type} (count : α → Nat) {xs ys : List α} (h : xs.Perm ys) :
    sumOf count xs = sumOf count ys := by
  induction h with
  | nil => rfl
  | cons x _ ih => simp only [sumOf, ih]
  | swap x y rest => simp only [sumOf, Nat.add_left_comm]
  | trans _ _ first second => rw [first, second]

theorem sumOf_filter_le {α : Type} (count : α → Nat) (p : α → Bool) (xs : List α) :
    sumOf count (xs.filter p) ≤ sumOf count xs := by
  induction xs with
  | nil => exact Nat.le_refl _
  | cons x rest ih =>
    by_cases h : p x <;> simp [h, sumOf] <;> omega

private theorem sumOf_congr {f g : String → Nat} {xs : List String} (h : ∀ x ∈ xs, f x = g x) :
    sumOf f xs = sumOf g xs := by
  induction xs with
  | nil => rfl
  | cons x rest ih => rw [sumOf, sumOf, h x (by simp), ih fun y member => h y (by simp [member])]

/-- The names of a directory lead to no more than the directory holds. -/
theorem sum_names_le (entries : List (String × Node)) :
    sumOf (fun name => 1 + weightOf entries name) (names entries) ≤ weightAll entries := by
  induction entries with
  | nil => simp [names, sumOf, weightAll]
  | cons entry rest ih =>
    obtain ⟨name, node⟩ := entry
    have others : ∀ other ∈ (names rest).filter (· != name),
        1 + weightOf ((name, node) :: rest) other = 1 + weightOf rest other := by
      intro other member
      have differs : name ≠ other := (bne_iff_ne.mp (List.mem_filter.mp member).2).symm
      simp [weightOf, find?, differs]
    have head : weightOf ((name, node) :: rest) name = node.weight := by
      simp [weightOf, find?]
    have filtered := sumOf_filter_le (fun other => 1 + weightOf rest other) (· != name) (names rest)
    simp only [names, sumOf, weightAll, head]
    rw [sumOf_congr others]
    omega

end Node

end PreMerge
