import BrightLint.Fault
import BrightLint.Project.Path

/-!
A tree of files, and what a path names in it.

* `FileTree.locate`: where a path leads, or why it leads nowhere
* `FileTree.read`: the bytes of the file that a path names
* `FileTree.folders`: the directories below a directory, each before what it holds
* `FileTree.filesIn`: the files that a directory holds
-/

namespace BrightLint

/-- A place in a tree: the names that lead to it from the root. -/
abbrev Location := List (List Char)

/-- The path of a place. -/
def Location.path (l : Location) : Path := '/' :: Path.ofNames l

/-- The places that lead to a place, from the root on, with the place itself. -/
def Location.way (l : Location) : List Location := (List.range (l.length + 1)).map (l.take ·)

/-- A tree of files. A directory is there if it holds something or is named as one. -/
structure FileTree where
  files : List (Location × ByteArray) := []
  empties : List Location := []

namespace FileTree

/-- The bytes of the file at a place. -/
def bytes? (t : FileTree) (l : Location) : Option ByteArray := t.files.lookup l

def isFile (t : FileTree) (l : Location) : Bool := (t.bytes? l).isSome

def isFolder (t : FileTree) (l : Location) : Bool :=
  l.isEmpty || t.files.any (fun (f, _) => l.isPrefixOf f && l != f) ||
    t.empties.any (l.isPrefixOf ·)

/-- Where a list of names leads from a place. Only a directory can be gone through, even on the
spot. -/
def follow (t : FileTree) (here : Location) : List (List Char) → Except Fault Location
  | [] => .ok here
  | name :: names =>
    if !t.isFolder here then .error .notFolder
    else if name = [] ∨ name = ['.'] then follow t here names
    else if name = ['.', '.'] then follow t here.dropLast names
    else
      let next := here ++ [name]
      if t.isFile next || t.isFolder next then follow t next names else .error .noFile

/-- Where a path leads from a place. The empty path names nothing. -/
def locate (t : FileTree) (here : Location) (p : Path) : Except Fault Location :=
  if p.isEmpty then .error .noFile else t.follow (if p.isAbsolute then [] else here) p.names

/-- What a path names, if it names anything. -/
def locate? (t : FileTree) (here : Location) (p : Path) : Option Location :=
  (t.locate here p).toOption

/-- The bytes of the file that a path names, seen from a place. -/
def read (t : FileTree) (here : Location) (p : Path) : Except Fault ByteArray := do
  match t.bytes? (← t.locate here p) with
  | some bytes => return bytes
  | none => throw .notFile

/-- The order of directories and files: by their names, one after the other. -/
def comesBefore (a b : Location) : Bool := !decide (b < a)

/-- The directories at and below a directory, each before what it holds. -/
def folders (t : FileTree) (top : Location) : List Location :=
  let named := t.files.flatMap (fun (f, _) => Location.way f.dropLast) ++
    t.empties.flatMap Location.way
  ((top :: named.filter (top.isPrefixOf ·)).eraseDups).mergeSort comesBefore

/-- The files that a directory holds, by name. -/
def filesIn (t : FileTree) (folder : Location) : List Location :=
  ((t.files.map (·.1)).filter fun f => !f.isEmpty && f.dropLast == folder).mergeSort comesBefore

end FileTree

end BrightLint
