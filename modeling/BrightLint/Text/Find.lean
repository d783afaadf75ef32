/-!
Parts of texts: finding, replacing, dividing.
-/

namespace BrightLint.Text

/-- Whether a text occurs in another. -/
def occursIn {α : Type} [BEq α] (part : List α) : List α → Bool
  | [] => part.isEmpty
  | c :: s => part.isPrefixOf (c :: s) || occursIn part s

/-- A text with every occurrence of a part removed, from left to right; `skip` characters of an
occurrence are still to be passed over. -/
def removeFrom (part : List Char) : Nat → List Char → List Char
  | _, [] => []
  | skip + 1, _ :: s => removeFrom part skip s
  | 0, c :: s =>
    if part.isPrefixOf (c :: s) then removeFrom part (part.length - 1) s
    else c :: removeFrom part 0 s

/-- A text with every occurrence of a part removed, from left to right. -/
def remove (part s : List Char) : List Char := if part.isEmpty then s else removeFrom part 0 s

/-- The pieces of a text between the occurrences of a character, the first piece continuing the
characters `sofar`, which are given in reverse. -/
def piecesFrom (sep : Char) (sofar : List Char) : List Char → List (List Char)
  | [] => [sofar.reverse]
  | c :: s => if c == sep then sofar.reverse :: piecesFrom sep [] s else piecesFrom sep (c :: sofar) s

/-- The pieces of a text between the occurrences of a character. -/
def pieces (sep : Char) (s : List Char) : List (List Char) := piecesFrom sep [] s

end BrightLint.Text
