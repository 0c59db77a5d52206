import PreMerge.Command.Launch

/-! Rehearsals: runs whose commands do what a list of cues says, one cue for each command. When no cue is
left, commands succeed and change nothing. -/

namespace PreMerge

/-- How a command ends. -/
inductive Cue.Finish
  | exits (code : Int)
  /-- It times out after so many seconds, or after the seconds it was given. -/
  | timesOut (seconds : Option Binary64)
  | raises (fault : Fault)
  deriving DecidableEq, Repr

/-- What one command does: it writes files, removes files, takes time, and ends. -/
structure Cue where
  writes : List (Path × Node) := []
  removes : List Path := []
  takes : Option Binary64 := none
  finish : Cue.Finish := .exits 0

namespace Cue

/-- A tree after files are written. -/
def writeAll (tree : FileTree) (writes : List (Path × Node)) : FileTree :=
  writes.foldl (fun tree (path, node) => tree.write path node) tree

/-- A tree after files are removed. -/
def removeAll (tree : FileTree) (removes : List Path) : FileTree :=
  removes.foldl FileTree.remove tree

/-- The site after what a command does to it. -/
def change {σ : Type} (cue : Cue) (site : Site σ) : Site σ :=
  { site with
    tree := removeAll (writeAll site.tree cue.writes) cue.removes
    now := cue.takes.elim site.now (site.now + ·) }

/-- The ending that a process comes to. -/
def ending (timeout : Option Binary64) : Finish → Ending
  | .exits code => .exited code
  | .timesOut seconds => .timedOut ((seconds <|> timeout).getD .nan)
  | .raises fault => .refused fault

/-- What a command comes to that can only raise a fault. -/
def result : Finish → Except Fault Unit
  | .raises fault => .error fault
  | .exits _ | .timesOut _ => .ok ()

end Cue

namespace Rehearsal

/-- The cue for the next command, and the site after it. -/
def next (site : Site (List Cue)) : Cue × Site (List Cue) :=
  match site.hidden with
  | [] => ({}, site)
  | cue :: rest => (cue, cue.change { site with hidden := rest })

/-- Processes that follow the cues. -/
def launcher : Launcher (List Cue) :=
  fun launch site =>
    let played := next site
    (Cue.ending launch.timeout played.1.finish, played.2)

/-- Commands that follow the cues without any process. -/
def runner : Runner (List Cue) :=
  fun _ site =>
    let played := next site
    { result := Cue.result played.1.finish, site := played.2 }

end Rehearsal

end PreMerge
