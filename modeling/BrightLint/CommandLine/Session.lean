import BrightLint.CommandLine.Options
import BrightLint.Project.FileTree
import BrightLint.Project.Ignore
import BrightLint.Settings.Merge
import BrightLint.Settings.Standard
import BrightLint.Check.FileEncoding
import BrightLint.Report
import BrightLint.Text.Lines

/-!
A run of the linter over a tree of files.

* `findManifest?`: the directory of the project, which is at or above what is to be linted
* `Session.lintFile`: lints one file
* `Session.lintFolder`: lints all that lies in a directory and is not ignored
* `Session.run`: a whole run
-/

namespace BrightLint

/-- Where the linter runs: the files, the working directory, the dictionary and the encodings. -/
structure Workspace where
  tree : FileTree
  here : Location
  knows : Dictionary
  /-- The encodings that are not known by themselves. -/
  codecs : Codecs := fun _ => none

namespace Workspace

/-- Whether a path names anything. -/
def has (w : Workspace) (p : Path) : Bool := (w.tree.locate? w.here p).isSome

/-- The bytes of the file that a path names. -/
def bytes? (w : Workspace) (p : Path) : Option ByteArray :=
  (w.tree.locate? w.here p).bind w.tree.bytes?

/-- What a path names, as a path from the root. -/
def absolute (w : Workspace) (p : Path) : Path := Path.absolute (Location.path w.here) p

/-- How a file is named in a report: by its path from the working directory. -/
def nameOf (w : Workspace) (p : Path) : Path := p.relativeTo (Location.path w.here ++ ['/'])

/-! ### The directory of the project -/

/-- How far above the target the manifest is looked for, the directory of the target counted. -/
def reach : Nat := 5

def hasManifest (w : Workspace) (dir : Path) : Bool :=
  w.has (dir.join "MANIFEST".toList) || w.has (dir.join "manifest".toList)

/-- The first directory with a manifest, of `n` from a directory upwards. -/
def findManifest? (w : Workspace) : Nat → Path → Option Path
  | 0, _ => none
  | n + 1, dir =>
    if w.hasManifest dir then some dir else findManifest? w n (dir.join "../".toList)

/-- The directory at which the search for the manifest starts. -/
def searchStart (w : Workspace) (target : Path) : Path :=
  if (w.bytes? target).isSome then target.parent else target

/-- The settings file of a project, as far as it is known. Something that is there but is no file
says nothing. -/
def userFile (w : Workspace) (project : Path) : Settings.UserFile :=
  let p := project.join ".bslintrc".toList
  if w.has p then
    match w.bytes? p with
    | some bytes => .ofBytes bytes
    | none => .none
  else .missing

end Workspace

/-- The state of a run. -/
structure Session where
  report : Report := {}
  /-- The directory of the project; empty if none was found. -/
  project : Path := []
  /-- The settings, once they are loaded. -/
  settings : Option Settings := none
  /-- Whether linting was begun, so that the spinner turns. -/
  isSpinning : Bool := false
  /-- Whether the run came to its end. -/
  isComplete : Bool := false
  /-- The words that the dictionary was asked about, the latest first. -/
  asked : List String := []

namespace Session

/-- A step of a run. -/
abbrev Run := EStateM Fault Session

/-- A value that may be a fault. -/
def ofExcept {α : Type} : Except Fault α → Run α
  | .ok a => pure a
  | .error f => throw f

/-- Changes the report. -/
def onReport (f : Report → Report) : Run Unit := modify fun s => { s with report := f s.report }

/-- Prints a notice. -/
def tell (n : Notice) : Run Unit := onReport (·.tell n [])

/-! ### Files -/

/-- Whether a file holds source code. -/
def isSource (name : Path) : Bool :=
  ".brs".toList.isSuffixOf name || ".bs".toList.isSuffixOf name

/-- Lints the text of a file and takes the result into the report. The encoding is looked at, but
a wrong one is not reported. -/
def lintBytes (codecs : Codecs) (p : Profile) (lexOnly : Bool) (path : String)
    (bytes : ByteArray) : Run Unit := do
  match Text.Encoding.utf8.decode? bytes with
  | none => throw .undecodable
  | some text => do
    let _ ← ofExcept (Check.findEncoding codecs p.settings bytes)
    let (result, asked) := lintText p lexOnly (Text.unifyLineEnds text.toList)
    modify fun s => { s with asked := asked ++ s.asked }
    let result ← ofExcept result
    onReport (·.record path result)

/-- Lints a file, if it holds source code, and prints its warnings. The file is opened by the name
that it has in the report. -/
def lintFile (w : Workspace) (p : Profile) (lexOnly : Bool) (path : Path) : Run Unit := do
  let name := w.nameOf path
  if isSource name then
    onReport fun r => { r with files := r.files ++ [String.ofList name] }
    let bytes ← ofExcept (w.tree.read w.here name)
    lintBytes w.codecs p lexOnly (String.ofList path) bytes
  onReport (·.printFile (String.ofList path))

/-- Lints the files of a directory, unless it is ignored. -/
def lintFolder (w : Workspace) (p : Profile) (lexOnly : Bool) (dir : Location) : Run Unit := do
  let base := w.absolute (← get).project
  let ignore ← ofExcept (p.settings.get "ignore")
  if !(← ofExcept (isIgnored ((Location.path dir).relativeTo base) ignore)) then
    (w.tree.filesIn dir).forM fun f => lintFile w p lexOnly (Location.path f)

/-- Lints what a path names, or, without one, what lies in the working directory. -/
def lint (w : Workspace) (p : Profile) (o : Options) : Run Unit := do
  let target := w.absolute (o.path.getD [])
  match w.tree.locate? [] target with
  | none => pure ()
  | some place =>
    if w.tree.isFile place then lintFile w p o.lexOnly target
    else (w.tree.folders place).forM (lintFolder w p o.lexOnly)

/-! ### A whole run -/

/-- Loads the settings of a user over other settings. They are in force from then on, and what
there is to say about the file of the user is printed. -/
def loadSettings (base : Settings) (file : Settings.UserFile) : Run Settings := do
  let (settings, printed) := Settings.load base file
  onReport (·.print printed)
  modify fun s => { s with settings := some settings }
  return settings

/-- Looks for the directory of the project and loads its settings. -/
def openProject (w : Workspace) (target : Path) : Run Settings := do
  match w.findManifest? Workspace.reach (w.searchStart target) with
  | some dir => modify fun s => { s with project := dir }
  | none => tell .noManifest
  loadSettings Settings.standard (w.userFile (← get).project)

/-- Lints what the options name. A path that names nothing is told, and so are settings that
cannot be used; in the latter case nothing is linted. -/
def run (w : Workspace) (o : Options) : Run Unit := do
  let target := o.path.getD []
  if !target.isEmpty && !w.has target then
    onReport fun r => { r with isCorrect := false }
    tell .noSuchPath
    modify fun s => { s with isComplete := true }
  else
    match ← openProject w target with
    | .null => pure ()
    | settings => do
      modify fun s => { s with isSpinning := true }
      lint w ⟨settings, w.knows⟩ o
      onReport Report.summarise
      modify fun s => { s with isComplete := true }

end Session

end BrightLint
