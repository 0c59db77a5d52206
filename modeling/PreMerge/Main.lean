import PreMerge.CommandLine.Session
import PreMerge.Host.Machine

/-! The program. It takes a picture of the files it is about, puts them on a host with the usual programs, and works
on that: commands run on this host, and the files themselves stay as they are. The first argument chooses the command:
`verify` or `check`. -/

namespace PreMerge

/-- The tree with what the file system holds at a path, and with all that is below it except hidden
entries and installed packages. What cannot be read is left out. -/
partial def photograph (tree : FileTree) (path : String) : IO FileTree := do
  let place := Path.ofString path
  let isLeftOut := fun (name : String) => name.startsWith "." || name == "node_modules"
  match ← (IO.FS.realPath path >>= fun real => real.readDir).toBaseIO with
  | .ok entries =>
    let names := (entries.toList.map (·.fileName)).filter (!isLeftOut ·)
    names.foldlM (fun tree name => photograph tree (FileTree.spell path name))
      (tree.write place (.directory []))
  | .error _ =>
    match ← (IO.FS.readBinFile path).toBaseIO with
    | .ok content => return tree.write place (.file content false)
    | .error _ => return tree

/-- A host with nothing but its programs and the working directory. -/
def bareSite (here : String) (now : Nat) : Site Host.Octets :=
  let parts := (Path.ofString here).parts
  { tree := ⟨Host.Machine.installed.put parts .empty, parts, Path.isAmong []⟩
    now := .ofRatio false now 1000
    hidden := [] }

/-- Writes what commands have printed and what a session has written, and gives its exit code. -/
def conclude (session : Session Host.Octets) : IO UInt32 := do
  for record in session.log do
    IO.eprintln record.line
  IO.print (Host.Octets.toString session.site.hidden)
  IO.print session.stdout
  IO.eprint session.stderr
  if let some fault := session.fault then
    IO.eprintln (fault.kind.label ++ ": " ++ fault.message)
  return (session.exitCode % 256).toNat.toUInt32

/-- The environment of the program. -/
def readEnvironment : IO Environment := do
  return ⟨← IO.getEnv "MERGEGATE_ROOT", ← IO.getEnv "MERGEGATE_VERBOSE",
    ← IO.getEnv "MERGEGATE_COMMAND_TIMEOUT"⟩

end PreMerge

open PreMerge in
/-- Runs the command that the first argument names. -/
def main (arguments : List String) : IO UInt32 := do
  let environment ← readEnvironment
  let site := bareSite (toString (← IO.currentDir)) (← IO.monoMsNow)
  match arguments with
  | "check" :: words =>
    let tree ← words.foldlM photograph site.tree
    conclude (Session.check words environment { site with tree })
  | "verify" :: words =>
    let root := (Settings.value? environment.root).getD "."
    let tree ← photograph site.tree root
    conclude (Session.verify ⟨"verify", false⟩ (Host.Machine.launcher []) words environment { site with tree })
  | _ =>
    IO.eprintln "Usage: verify [OPTIONS] | check FILES..."
    return 2
