import BrightLint.Project.Path
import BrightLint.Json.Basic

/-!
Which directories of a project are left alone: those below an entry of the list that the settings
give.
-/

namespace BrightLint

/-- Whether a directory lies below an entry of a list. Both are paths from the directory of the
project, and no path holds half a character. -/
def liesBelow (dir : Path) : List Json → Except Fault Bool
  | [] => .ok false
  | .str entry :: entries =>
    if (Path.slashed entry.toList).isPrefixOf dir.slashed then .ok true else liesBelow dir entries
  | .halved _ :: entries => liesBelow dir entries
  | _ :: _ => .error .notText

/-- Whether the settings say that a directory is to be ignored. -/
def isIgnored (dir : Path) (ignore : Json) : Except Fault Bool :=
  match ignore.items? with
  | some entries => liesBelow dir entries
  | none => .error .wrongType

end BrightLint
