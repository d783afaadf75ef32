import BrightLint.Check.Basic
import BrightLint.Regex.Reader

/-!
Comments: whether a file may have any, whether it may have notes of work to be done, and how such
a note has to look.
-/

namespace BrightLint.Check

/-- A comment on one line with the word `TODO` in it, the letters being compared by `same`. -/
def todoPattern (same : List Char → Pattern) : Pattern :=
  .chain [.either (.char '\'') (.seq (same "REM".toList) .edge), .many (.char ' '), .many .inLine,
    same "TODO".toList]

/-- Whether a text fits the format that the settings give. -/
def formatTest (format : Json) : Except Fault (List Char → Bool) :=
  match format with
  | .str f => (Regex.ofText? {} f).map Regex.fits
  | .halved f => (Regex.ofPoints? {} f.points).map Regex.fits
  | _ => .error .wrongType

/-- What the settings say of comments: whether notes of work to be done are allowed and whether
other comments are, and the format of such a note. -/
def commentRules (s : Settings) : Except Fault (Bool × Bool × Json) := do
  let params ← s.params .comment
  let todos ← params.getPath ["TODOs", "allow_TODOs"]
  let generic ← params.get "allow_generic_comments"
  let format ← params.getPath ["TODOs", "format"]
  return (todos.isTrue, generic.isTrue, format)

/-- Complains of a comment that the settings do not allow. -/
def findComment (s : Settings) (text : List Char) : Verdict := whenActive s .comment do
  match ← commentRules s with
  | (true, true, format) =>
    if (todoPattern .literal).fits text then
      if (← formatTest format) text then return none else complain .todoFormat
    else return none
  | (true, false, format) =>
    if (← formatTest format) text then return none else complain .todoOnlyFormat
  | (false, true, _) =>
    if (todoPattern .literalFolded).fits text then complain .noTodos else return none
  | (false, false, _) => complain .noComments

end BrightLint.Check
