import BrightLint.Text.Letter
import BrightLint.Text.Numeral

/-!
Word characters: letters, numerals and the underscore. A keyword ends where no word character
follows it.
-/

namespace BrightLint.Text

/-- Whether a character can stand inside a word. -/
def isWordChar (c : Char) : Bool := isLetter c || isNumeral c || c == '_'

/-- Whether a text starts with something that does not continue a word. -/
def startsOutsideWord : List Char → Bool
  | [] => true
  | c :: _ => !isWordChar c

end BrightLint.Text
