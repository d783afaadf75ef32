import BrightLint.Check.Basic
import BrightLint.Json.Number

/-!
The checks of a line as a whole: its length, the number of empty lines before it, and a space at
its end. A limit may be of any type, and a quantity is compared with it as its type allows.
-/

namespace BrightLint.Check

/-- Complains of a line longer than the limit. -/
def findLongLine (s : Settings) (length : Json) : Verdict := whenActive s .lineLength do
  let limit ← s.param .lineLength "max_line_length"
  if ← limit.less length then return some ⟨.lineLength, [limit]⟩ else return none

/-- Complains of more empty lines in a row than are allowed. -/
def findEmptyLines (s : Settings) (count : Json) : Verdict := whenActive s .emptyLines do
  let allowed ← s.param .emptyLines "consecutive_empty_lines"
  if ← allowed.less count then return some ⟨.emptyLines, [allowed]⟩ else return none

/-- Complains of a line that ends in a space. -/
def findTrailingBlank (s : Settings) (line : List Char) : Verdict := whenActive s .trailingBlank do
  if line.getLast? = some ' ' then complain .trailingBlank else return none

end BrightLint.Check
