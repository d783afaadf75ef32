import BrightLint.Check.Basic
import BrightLint.Lexeme.Kind
import BrightLint.Text.Letter
import BrightLint.Text.Case

/-!
Spelling: which words of an identifier or a comment are looked up in the dictionary.

* `identWords`: the words of an identifier, each starting at a capital
* `commentWords`: the words of a comment
* `askUntil`: the words asked about, up to the first that is wrong
-/

namespace BrightLint

/-- The dictionary: which words are spelt correctly. -/
abbrev Dictionary := String → Bool

namespace Check

/-- A word that has been read, unless it is empty. It is given in reverse. -/
def flush (word : List Char) : List (List Char) := if word.isEmpty then [] else [word.reverse]

/-- The words of a text that go on from a word already begun, which is given in reverse. -/
def identWordsFrom (word : List Char) : List Char → List (List Char)
  | [] => flush word
  | c :: s =>
    if !Text.isLetter c then flush word ++ identWordsFrom [] s
    else if Text.isLower c then identWordsFrom (c :: word) s
    else if Text.isUpper c then flush word ++ identWordsFrom [c] s
    else identWordsFrom word s

/-- The words of an identifier. A capital begins a word, and a character that is not a letter ends
one; a letter without case is passed over. -/
def identWords (s : List Char) : List (List Char) := identWordsFrom [] s

/-- The words of a comment: what stands between spaces and is made of letters, except the mark
of the comment and words in capitals. -/
def commentWords (s : List Char) : List (List Char) :=
  (Text.pieces ' ' s).filter fun w =>
    !w.isEmpty && w.all Text.isLetter && w != ['r', 'e', 'm'] && !Text.allCapitals w

/-- The words asked about in order, up to the first wrong one, and whether there is one. -/
def askUntil (knows : Dictionary) : List String → List String × Bool
  | [] => ([], false)
  | w :: ws =>
    if knows w then
      let (asked, wrong) := askUntil knows ws
      (w :: asked, wrong)
    else ([w], true)

/-- Complains of a wrong word. The words asked about are given with the verdict. -/
def findSpelling (s : Settings) (knows : Dictionary) (text : List Char) (isComment : Bool) :
    Except Fault (Option Complaint × List String) := do
  if !(← s.isActive .spelling) then return (none, [])
  let words := if isComment then commentWords text else identWords text
  let (asked, wrong) := askUntil knows (words.map String.ofList)
  return (if wrong then some ⟨.spelling, []⟩ else none, asked)

end Check

end BrightLint
