import BrightLint.Check.Basic
import BrightLint.Json.Number
import BrightLint.Regex.Reader

/-!
The indentation of a line: `level` units of white space and then something solid. A line that
closes a block, or divides one, counts with the level outside the block.

* `indentTest`: whether a line is indented as a level asks for
* `isOneLineIf`: whether a line is an `if` whose body follows on the same line
* `findIndentation`: the complaint about a line, and the level after it
-/

namespace BrightLint.Check

/-- What a line is indented with. -/
inductive IndentUnit where
  | tab | space
deriving DecidableEq, Repr

namespace IndentUnit

def pattern : IndentUnit → Pattern
  | tab => .char '\t'
  | space => .blank

/-- The unit in the text of an expression. -/
def sign : IndentUnit → String
  | tab => "\\t"
  | space => "\\s"

end IndentUnit

/-- Whether a line starts with a number of units and then something solid. A value that is not a
number is written into the expression for such a line. -/
def indentTest (unit : IndentUnit) (count : Json) : Except Fault (List Char → Bool) :=
  match count with
  | .int n => (unit.pattern.exactly? .literal n).map fun gap => (Pattern.seq gap .solid).fits
  | v => (Regex.ofPoints? {} (Text.points (unit.sign ++ "\x7b") ++ v.spelling ++
      Text.points "\x7d\\S")).map Regex.fits

/-- The test that a line at a level has to pass, and the complaint if it does not. -/
def indentRule (s : Settings) (level : Json) : Except Fault ((List Char → Bool) × Complaint) := do
  let params ← s.params .indentation
  let size ← params.get "tab_size"
  let onlyTabs ← params.get "only_tab_indents"
  if onlyTabs.isTrue then return (← indentTest .tab level, ⟨.indentTabs, []⟩)
  else return (← indentTest .space (← size.times level), ⟨.indentWidth, [size]⟩)

/-- A line with an `if`, a condition, a `then` and something after it. -/
def oneLineIf : Pattern :=
  .chain [.many .blank, .literalFolded "if ".toList, .many1 .inLine,
    .literalFolded " then".toList, .many1 .blank, .solid]

def isOneLineIf (line : List Char) : Bool := oneLineIf.fits line

/-- The complaint about a line that has to stand at a level. -/
def findIndentAt (s : Settings) (level : Int) (line : List Char) : Verdict := do
  let (fits, complaint) ← indentRule s (.int level)
  if fits line then return none else return some complaint

/-- The level at which a line stands, and the level after it. `shift` is what its words add:
one opens a block, minus one closes it, two does both. -/
def levelOf (level shift : Int) : Int := if shift = -1 ∨ shift = 2 then level - 1 else level

def levelAfter (level shift : Int) (line : List Char) : Int :=
  let here := levelOf level shift
  let here := if isOneLineIf line then here - 1 else here
  if shift = 1 ∨ shift = 2 then here + 1 else here

/-- The complaint about a line, if there is one, and the level after it. An empty line says
nothing. -/
def findIndentation (s : Settings) (level : Int) (line : List Char) (shift : Int) :
    Except Fault (Option (Option Complaint × Int)) := do
  if !(← s.isActive .indentation) || line.isEmpty then return none
  let complaint ← findIndentAt s (levelOf level shift) line
  return some (complaint, levelAfter level shift line)

end BrightLint.Check
