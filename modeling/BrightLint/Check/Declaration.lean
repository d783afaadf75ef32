import BrightLint.Check.Basic
import BrightLint.Lexeme.Basic
import BrightLint.Regex.Reader

/-!
The spaces in the declaration of a method: between its words, and after each comma. How many there
have to be is a number; any other value is written into the expression for a declaration.
-/

namespace BrightLint.Check

/-- A character of a name in a declaration. -/
def nameChar : Pattern := .one isNameChar

/-- A declaration with a gap wherever spaces belong. -/
def declarationPattern (gap : Pattern) : Pattern :=
  let typed := Pattern.chain [gap, .literalFolded "as".toList, gap, .many1 nameChar]
  let next := Pattern.chain [.char ',', gap, .many nameChar]
  let param := Pattern.chain [.many1 nameChar, .optional typed, .optional next]
  .chain [.either (.literalFolded "function".toList) (.literalFolded "sub".toList), gap,
    .many1 nameChar, .char '(', .many param, .char ')']

/-- The same as the text of an expression, the gap being white space and a text in braces. -/
def declarationText (count : List Text.Point) : List Text.Point :=
  let gap := Text.points "\\s\x7b" ++ count ++ Text.points "\x7d"
  Text.points "(function|sub)" ++ gap ++ Text.points "[a-z0-9_]+\\(([a-z0-9_]+(?:(" ++ gap ++
    Text.points "as" ++ gap ++ Text.points "([a-z0-9_]+))?)(?:," ++ gap ++
    Text.points "[a-z0-9_]*)?)*\\)"

/-- Whether a text starts with a well spaced declaration, by the number of spaces. -/
def declarationTest (count : Json) : Except Fault (List Char → Bool) :=
  match count with
  | .int n => (Pattern.blank.exactly? .literalFolded n).map fun gap => (declarationPattern gap).fits
  | v => (Regex.ofPoints? { isFolded := true } (declarationText v.spelling)).map Regex.fits

/-- Complains of a text that does not start with a well spaced declaration. A comment is left
alone, and so is white space at the start. -/
def findDeclarationSpacing (s : Settings) (text : List Char) : Verdict := do
  if !(← s.isActive .declarationSpacing) || startsRemark text then return none
  let fits ← declarationTest (← s.param .declarationSpacing "method_spaces")
  if fits (text.dropWhile Text.isBlank) then return none
  else return some ⟨.declarationSpacing, []⟩

end BrightLint.Check
