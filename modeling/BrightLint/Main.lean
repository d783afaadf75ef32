import BrightLint.CommandLine.Session
import BrightLint.Spinner

/-!
The linter as a program. What a run can see of the disk is read first, into a tree of files; the
run itself is a function of that tree.
-/

namespace BrightLint.Main

def usage : String :=
  "usage: brightlint [-h] [--path PATH] [--lex] [--version]\n" ++
  "  --path, -p PATH  the directory or file to lint\n" ++
  "  --lex, -l        only read the code, without parsing it\n" ++
  "  --version, -v    print the version\n"

/-- The place that an absolute path names. -/
def placeOf (p : Path) : Location := (p.names.foldl Path.goOn []).reverse

/-- The files at and below a path. Only source files are read. -/
partial def gather (p : Path) : IO FileTree := do
  let path := (← IO.currentDir) / String.ofList p
  if ← path.isDir then
    let mut tree : FileTree := { empties := [placeOf p] }
    for entry in ← path.readDir do
      let below ← gather (p.join entry.fileName.toList)
      tree := { files := below.files ++ tree.files, empties := below.empties ++ tree.empties }
    return tree
  else if ← path.pathExists then
    let bytes ← if Session.isSource p then IO.FS.readBinFile path else pure .empty
    return { files := [(placeOf p, bytes)] }
  else return {}

/-- The manifests and settings in a directory and in the `n` above it. -/
def gatherAbove (dir : Path) : Nat → IO FileTree
  | 0 => return {}
  | n + 1 => do
    let mut tree ← gatherAbove (dir.join "../".toList).normal n
    for name in ["MANIFEST", "manifest", ".bslintrc"] do
      let path := (← IO.currentDir) / String.ofList (dir.join name.toList)
      if (← path.pathExists) && !(← path.isDir) then
        let bytes ← IO.FS.readBinFile path
        tree := { tree with files := (placeOf (dir.join name.toList), bytes) :: tree.files }
    return tree

/-- The words of the system, if it has a list of them; without one every word is correct. -/
def dictionary : IO Dictionary := do
  let path := (← IO.currentDir) / "/usr/share/dict/words"
  if ← path.pathExists then
    let words := (← IO.FS.readFile path).splitOn "\n"
    return fun w => words.contains w
  else return fun _ => true

/-- The files that are opened in place of others, since the name of a file leaves out the path of
the working directory wherever that occurs. -/
def gatherNamed (w : Workspace) (files : List Location) : IO FileTree := do
  let mut tree : FileTree := {}
  for file in files do
    let named := w.absolute (w.nameOf (Location.path file))
    if placeOf named != file && Session.isSource named then
      let opened ← gather named
      tree := { files := opened.files ++ tree.files, empties := opened.empties ++ tree.empties }
  return tree

/-- What a run can see. -/
def workspace (o : Options) : IO Workspace := do
  let here := (← IO.currentDir).toString.toList
  let target := Path.absolute here (o.path.getD [])
  let below ← gather target
  let top := if below.isFile (placeOf target) then target.parent else target
  let above ← gatherAbove top (Workspace.reach + 1)
  let own ← gatherAbove here 1
  let tree : FileTree :=
    { files := own.files ++ above.files ++ below.files, empties := placeOf here :: below.empties }
  let w : Workspace := { tree, here := placeOf here, knows := ← dictionary }
  let named ← gatherNamed w (below.files.map (·.1))
  return { w with
    tree := { files := tree.files ++ named.files, empties := tree.empties ++ named.empties } }

/-- Turns the spinner until it is told to stop. -/
partial def spin (stop : IO.Ref Bool) (n : Nat) : IO Unit := do
  if ← stop.get then return
  IO.print (String.ofList (Spinner.turn n))
  (← IO.getStdout).flush
  IO.sleep 100
  spin stop (n + 1)

/-- Runs the linter and prints its report. -/
def lint (o : Options) : IO UInt32 := do
  let stop ← IO.mkRef false
  let spinner ← IO.asTask (spin stop 0)
  let outcome := (Session.run (← workspace o) o).run {}
  let (session, code) ← match outcome with
    | .ok () s => pure (s, 0)
    | .error f s => do
      IO.eprintln ("brightlint: " ++ f.reason)
      pure (s, 1)
  stop.set true
  let _ ← IO.wait spinner
  IO.print session.report.out
  return code

end BrightLint.Main

def main (args : List String) : IO UInt32 := do
  let request := BrightLint.Request.ofArgs args
  IO.print request.told
  match request with
  | .lint o => BrightLint.Main.lint o
  | .help => do
    IO.print BrightLint.Main.usage
    return 0
  | .misuse => do
    IO.eprint BrightLint.Main.usage
    return 2
  | .version => return 0
