import PreMerge.Files.Node
import PreMerge.Files.Path
import PreMerge.Files.Refusal

/-! The files a run sees: a tree, the directory the run works in, and the paths that may not be read.
Main statement: the way on from a directory is one step further (`follow_append_single`). -/

namespace PreMerge

/-- A tree of files as seen from a working directory. -/
structure FileTree where
  root : Node
  here : List String
  /-- Whether a path may not be read or listed. It is left open what decides that: the file a path leads to, or how the
  path is spelt. -/
  denied : Path → Bool

/-- The names in a directory. Links that lead to a directory count as directories. -/
structure Listing where
  files : List String
  directories : List String
  deriving DecidableEq, Repr

namespace FileTree

/-- The steps a link stands for. Empty pieces ask for a directory, as single dots do. -/
def stepsOf (target : String) : List String :=
  (Text.pieces '/' target.toList).map fun piece => if piece = [] then "." else String.ofList piece

/-- Where the steps of a link start. -/
def startOf (target : String) (here : List String) : List String :=
  if Path.anchorOf target.toList = .here then here else []

/-- The place that steps lead to, as names from the root. Links on the way are followed, at most
`budget` of them; a link at the end is followed if `last` says so. -/
def follow (root : Node) (last : Bool) (budget : Nat) (here : List String) :
    List String → Except Refusal (List String)
  | [] => .ok here
  | step :: rest =>
    if step = "." then follow root last budget here rest
    else if step = ".." then follow root last budget here.dropLast rest
    else if step.utf8ByteSize > 255 then .error .nameTooLong
    else match root.at? (here ++ [step]) with
      | none => .error .notFound
      | some (.directory _) => follow root last budget (here ++ [step]) rest
      | some (.file _ _) => if rest = [] then .ok (here ++ [step]) else .error .notDirectory
      | some (.link target) =>
        if rest = [] ∧ last = false then .ok (here ++ [step])
        else match budget with
          | 0 => .error .linkLoop
          | left + 1 => follow root last left (startOf target here) (stepsOf target ++ rest)
  termination_by steps => (budget, steps.length)

/-- The place that steps lead to when missing names are taken as they are, and the tree with directories of these names
on the way. -/
def pave (root : Node) (last : Bool) (budget : Nat) (here : List String) : List String → Node × List String
  | [] => (root, here)
  | step :: rest =>
    if step = "." then pave root last budget here rest
    else if step = ".." then pave root last budget here.dropLast rest
    else match root.at? (here ++ [step]) with
      | some (.link target) =>
        if rest = [] ∧ last = false then (root, here ++ [step])
        else match budget with
          | 0 => (root, here ++ [step])
          | left + 1 => pave root last left (startOf target here) (stepsOf target ++ rest)
      | some _ => pave root last budget (here ++ [step]) rest
      | none =>
        pave (if rest = [] then root else root.put (here ++ [step]) .empty) last budget (here ++ [step]) rest
  termination_by steps => (budget, steps.length)

/-- How many links one path may lead through. -/
def linkBudget : Nat := 40

/-- Whether steps lead down from a node to one that is there, through directories and not through links. -/
def leadsDown : Node → List String → Bool
  | _, [] => true
  | .directory entries, step :: rest =>
    step != "." && step != ".." && step.utf8ByteSize ≤ 255 && match Node.find? step entries with
      | some (.directory inner) => leadsDown (.directory inner) rest
      | some (.file _ _) => rest.isEmpty
      | _ => false
  | _, _ :: _ => false

/-- The place that steps lead to. Those that lead down are at the place of their names. -/
def arrive (root : Node) (last : Bool) (here steps : List String) : Except Refusal (List String) :=
  if (root.at? here).any (leadsDown · steps) then .ok (here ++ steps)
  else follow root last linkBudget here steps

/-- How many bytes the text of a path stays below. -/
def pathBound : Nat := 4096

/-- Where the parts of a path start. -/
def start (tree : FileTree) : Anchor → List String
  | .here => tree.here
  | .root | .doubleRoot => []

/-- The place of a path; `shown` is how the path is spelt. -/
def locate (tree : FileTree) (last : Bool) (path : Path) (shown : String) : Except Refusal (List String) :=
  if shown.utf8ByteSize < pathBound then
    arrive tree.root last (tree.start path.anchor) path.parts
  else .error .nameTooLong

/-- The node at a path. -/
def node? (tree : FileTree) (last : Bool) (path : Path) (shown : String) : Except Refusal Node :=
  match tree.locate last path shown with
  | .error refusal => .error refusal
  | .ok place => (tree.root.at? place).elim (.error .notFound) .ok

/-- Whether a path is a link itself. -/
def isLink (tree : FileTree) (path : Path) (shown : String) : Bool :=
  match tree.node? false path shown with
  | .ok (.link _) => true
  | _ => false

/-- Whether a path leads to a directory. -/
def isDirectory (tree : FileTree) (path : Path) (shown : String) : Bool :=
  match tree.node? true path shown with
  | .ok (.directory _) => true
  | _ => false

/-- Whether a path may not be read. -/
def isDenied (tree : FileTree) (path : Path) : Bool :=
  tree.denied path

/-- The bytes of a file. -/
def read (tree : FileTree) (path : Path) : Except Fault (List UInt8) :=
  if path.hasNull then .error .nullInPath
  else if tree.isDenied path then .error (Refusal.denied.fault path.text)
  else match tree.node? true path path.text with
    | .ok (.file content _) => .ok content.data.toList
    | .ok (.directory _) => .error (Refusal.isDirectory.fault path.text)
    | .ok (.link _) => .error (Refusal.linkLoop.fault path.text)
    | .error refusal => .error (refusal.fault path.text)

/-- A longer path as it is spelt. -/
def spell (shown name : String) : String :=
  if shown.toList.getLast? = some '/' then shown ++ name else shown ++ "/" ++ name

/-- Whether an entry of a directory leads to a directory. -/
def entersDirectory (tree : FileTree) (path : Path) (shown name : String) : Option Node → Bool
  | some (.directory _) => true
  | some (.link _) => tree.isDirectory (path.extend [name]) (spell shown name)
  | _ => false

/-- Whether a name stands for an entry of a directory and not for the directory or its parent. -/
def isEntryName (name : String) : Bool :=
  name != "." && name != ".."

/-- The names in a directory with the given entries. -/
def listing (tree : FileTree) (path : Path) (shown : String) (entries : List (String × Node)) : Listing :=
  let names := (Node.names entries).filter isEntryName
  let enters := fun name => tree.entersDirectory path shown name (Node.find? name entries)
  ⟨names.filter fun name => !enters name, names.filter enters⟩

/-- The names in the directory at a path. -/
def list (tree : FileTree) (path : Path) (shown : String) : Except Fault Listing :=
  if path.hasNull then .error .nullInPath
  else if tree.isDenied path then .error (Refusal.denied.fault shown)
  else match tree.node? true path shown with
    | .ok (.directory entries) => .ok (tree.listing path shown entries)
    | .ok _ => .error (Refusal.notDirectory.fault shown)
    | .error refusal => .error (refusal.fault shown)

/-- The tree with a node written at a path. Directories on the way are made, and one that is there
stays. -/
def write (tree : FileTree) (path : Path) (node : Node) : FileTree :=
  let last := match node with
    | .link _ => false
    | _ => true
  let (root, place) := pave tree.root last linkBudget (tree.start path.anchor) path.parts
  match node, root.at? place with
  | .directory [], some (.directory _) => { tree with root }
  | _, _ => { tree with root := root.put place node }

/-- The tree without what is at a path. -/
def remove (tree : FileTree) (path : Path) : FileTree :=
  match follow tree.root false linkBudget (tree.start path.anchor) path.parts with
  | .ok place => { tree with root := tree.root.erase place }
  | .error _ => tree

theorem follow_of_leadsDown {root : Node} (last : Bool) (budget : Nat) {here steps : List String} {node : Node}
    (isThere : root.at? here = some node) (down : leadsDown node steps = true) :
    follow root last budget here steps = .ok (here ++ steps) := by
  induction steps generalizing here node with
  | nil => simp [follow]
  | cons step rest ih =>
    cases node with
    | directory entries =>
      simp only [leadsDown, Bool.and_eq_true, bne_iff_ne, decide_eq_true_eq] at down
      obtain ⟨⟨⟨notDot, notUp⟩, fits⟩, down⟩ := down
      have child : root.at? (here ++ [step]) = Node.find? step entries := by
        simp [Node.at?_append, isThere, Node.at?]
      rw [follow, if_neg notDot, if_neg notUp, if_neg (by omega), child]
      split at down
      · next inner found =>
        rw [found] at child ⊢
        simpa using ih child down
      · next found =>
        have isLast : rest = [] := by simpa using down
        simp [found, isLast]
      · cases down
    | file => simp [leadsDown] at down
    | link => simp [leadsDown] at down

theorem arrive_eq_follow (root : Node) (last : Bool) (here steps : List String) :
    arrive root last here steps = follow root last linkBudget here steps := by
  unfold arrive
  split
  · next down =>
    cases isThere : root.at? here with
    | none => simp [isThere] at down
    | some node =>
      rw [isThere, Option.any_some] at down
      exact (follow_of_leadsDown last linkBudget isThere down).symm
  · rfl

/-- From a directory that a path leads to, one step more is a step from there. -/
theorem follow_append_single {root : Node} {budget : Nat} {here steps place : List String}
    {entries : List (String × Node)} (h : follow root true budget here steps = .ok place)
    (directory : root.at? place = some (.directory entries)) (last : Bool) (step : String) :
    ∃ left, follow root last budget here (steps ++ [step]) = follow root last left place [step] := by
  fun_induction follow root true budget here steps with
  | case1 budget here =>
    cases h
    exact ⟨budget, rfl⟩
  | case2 budget here rest ih =>
    simpa [follow] using ih h
  | case3 budget here rest _ ih =>
    simpa [follow] using ih h
  | case4 => cases h
  | case5 => cases h
  | case6 budget here name rest notDot notUp fits inner found ih =>
    simpa [follow, notDot, notUp, fits, found] using ih h
  | case7 budget here name notDot notUp fits content runnable found =>
    cases h
    rw [found] at directory
    cases directory
  | case8 => cases h
  | case9 budget here name rest notDot notUp fits target found isLast =>
    simp at isLast
  | case10 => cases h
  | case11 here name rest notDot notUp fits target found notLast left ih =>
    simpa [follow, notDot, notUp, fits, found] using ih h

theorem node?_eq_ok {tree : FileTree} {last : Bool} {path : Path} {shown : String} {node : Node} :
    tree.node? last path shown = .ok node ↔
      ∃ place, tree.locate last path shown = .ok place ∧ tree.root.at? place = some node := by
  unfold node?
  split
  · simp_all
  · next place located =>
    cases h : tree.root.at? place <;> simp [located, h]

/-- Steps from a directory that a path leads to. -/
theorem locate_extend {tree : FileTree} {path : Path} {shown : String} {place : List String}
    {entries : List (String × Node)} (located : tree.locate true path shown = .ok place)
    (directory : tree.root.at? place = some (.directory entries)) {longer : String}
    (fits : longer.utf8ByteSize < pathBound) (last : Bool) (name : String) :
    ∃ left, tree.locate last (path.extend [name]) longer = follow tree.root last left place [name] := by
  simp only [locate, arrive_eq_follow] at located
  split at located
  · have ⟨left, onward⟩ := follow_append_single located directory last name
    exact ⟨left, by simpa [locate, arrive_eq_follow, fits, Path.extend] using onward⟩
  · cases located

/-- An entry of a directory is found where it is, unless it is a link that is followed. -/
theorem find?_of_node?_extend {tree : FileTree} {path : Path} {shown : String}
    {entries : List (String × Node)} {name longer : String} {node : Node} (isEntry : isEntryName name = true)
    (directory : tree.node? true path shown = .ok (.directory entries))
    (found : tree.node? true (path.extend [name]) longer = .ok node) :
    Node.find? name entries = some node ∨ tree.isLink (path.extend [name]) longer = true := by
  obtain ⟨place, located, isDirectory⟩ := node?_eq_ok.mp directory
  obtain ⟨inner, locatedInner, isNode⟩ := node?_eq_ok.mp found
  simp only [isEntryName, Bool.and_eq_true, bne_iff_ne] at isEntry
  have child : tree.root.at? (place ++ [name]) = Node.find? name entries := by
    simp [Node.at?_append, isDirectory, Node.at?]
  have fits : longer.utf8ByteSize < pathBound := by
    simp only [locate] at locatedInner
    split at locatedInner <;> simp_all
  obtain ⟨left, arrives⟩ := locate_extend located isDirectory fits true name
  obtain ⟨left', stays⟩ := locate_extend located isDirectory fits false name
  rw [arrives, follow] at locatedInner
  rw [follow] at stays
  simp only [isEntry.1, isEntry.2, if_false] at locatedInner stays
  split at locatedInner
  · cases locatedInner
  · next short =>
    rw [child] at locatedInner stays
    cases at_name : Node.find? name entries with
    | none => simp [at_name] at locatedInner
    | some entry =>
      rw [at_name] at child locatedInner stays
      cases entry with
      | link target =>
        rw [if_neg (by assumption)] at stays
        exact .inr (by simp [isLink, node?, stays, child])
      | file => simp_all
      | directory => simp_all [follow]

theorem list_eq_ok {tree : FileTree} {path : Path} {shown : String} {listing : Listing}
    (h : tree.list path shown = .ok listing) :
    ∃ entries, tree.node? true path shown = .ok (.directory entries) ∧
      listing = tree.listing path shown entries := by
  simp only [list] at h
  split at h
  · cases h
  · split at h
    · cases h
    · split at h
      · next entries directory =>
        cases h
        exact ⟨entries, directory, rfl⟩
      · cases h
      · cases h

end FileTree

end PreMerge
