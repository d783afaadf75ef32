import BrightLint.Text.Find

/-!
Paths as they are written: names with a slash between each two of them.

* `Path.join`: a path as it is seen from another
* `Path.parent`: what holds the last name of a path
* `Path.absolute`: the path from the root, without detours
* `Path.slashed`: a path with a slash at either end
-/

namespace BrightLint

/-- A path as it is written. -/
abbrev Path := List Char

namespace Path

/-- The names of a path; a slash more than is needed gives an empty one. -/
def names (p : Path) : List (List Char) := Text.pieces '/' p

def isAbsolute (p : Path) : Bool := p.head? == some '/'

/-- A path as it is seen from another. An absolute path is the same from everywhere. -/
def join (a b : Path) : Path :=
  if b.isAbsolute then b
  else if a.isEmpty || a.getLast? == some '/' then a ++ b
  else a ++ '/' :: b

/-- A text without the slashes at its end. -/
def trimSlashes (p : Path) : Path := (p.reverse.dropWhile (· == '/')).reverse

/-- What stands before the last name. Its slashes at the end are dropped, unless it is nothing
else. -/
def parent (p : Path) : Path :=
  let above := (p.reverse.dropWhile (· != '/')).reverse
  if (trimSlashes above).isEmpty then above else trimSlashes above

/-- Goes on by one name from a place below the root, which is given with the latest name first. -/
def goOn (place : List (List Char)) (name : List Char) : List (List Char) :=
  if name = [] ∨ name = ['.'] then place
  else if name = ['.', '.'] then place.tail
  else name :: place

/-- The slashes at the start of an absolute path: two are kept, any other number is one. -/
def lead (p : Path) : Path :=
  match p with
  | '/' :: '/' :: '/' :: _ => ['/']
  | '/' :: '/' :: _ => ['/', '/']
  | _ => ['/']

/-- The text of a list of names with a slash between each two. -/
def ofNames : List (List Char) → Path
  | [] => []
  | [name] => name
  | name :: names => name ++ '/' :: ofNames names

/-- An absolute path without detours. -/
def normal (p : Path) : Path := p.lead ++ ofNames (p.names.foldl goOn []).reverse

/-- The path from the root to what a path names when it is seen from another. -/
def absolute (seenFrom p : Path) : Path := (join seenFrom p).normal

/-- A path with a slash at either end. -/
def slashed (p : Path) : Path :=
  let p : Path := if p.isAbsolute then p else '/' :: p
  if p.getLast? == some '/' then p else p ++ ['/']

/-- A path without the part that leads to a base. -/
def relativeTo (p base : Path) : Path := Text.remove base p

end Path

end BrightLint
