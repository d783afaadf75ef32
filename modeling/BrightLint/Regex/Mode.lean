import BrightLint.Regex.Basic
import BrightLint.Text.Word
import BrightLint.Text.Fold
import BrightLint.Text.Blank

/-!
The modes in which an expression is read, and what its signs stand for in them: characters, ranges
of characters, named sets, and the places where a line or a word begins or ends.
-/

namespace BrightLint.Regex

/-- How an expression is read. -/
structure Mode where
  /-- Case is ignored. -/
  isFolded : Bool := false
  /-- A point stands for a line feed as well. -/
  isDotAll : Bool := false
  /-- `^` and `$` stand for the beginning and the end of every line. -/
  isLinewise : Bool := false
  /-- White space and remarks are passed over. -/
  isSpaced : Bool := false
  /-- Only ASCII characters have a case and belong to named sets. -/
  isAscii : Bool := false
  /-- There may be no repetitions. -/
  isPlain : Bool := false
deriving DecidableEq, Repr

namespace Mode

/-! ### Characters -/

/-- Whether a code point, or one that differs from it in case only, lies in a range. -/
def inRange (m : Mode) (lo hi : Nat) : Char → Bool :=
  let within (n : Nat) : Bool := lo ≤ n && n ≤ hi
  if !m.isFolded then fun c => within c.toNat
  else if m.isAscii then fun c =>
    within c.toNat || within c.toLower.toNat || within c.toUpper.toNat
  else fun c => (Text.variants c).any within

def code (m : Mode) (n : Nat) : Char → Bool := m.inRange n n

/-- What is done to characters before they are compared with those of a group. -/
def compared (m : Mode) : Char → Char :=
  if !m.isFolded then id else if m.isAscii then Char.toLower else Text.lower

/-- Any character, or any but a line feed. -/
def point (m : Mode) : Char → Bool := fun c => m.isDotAll || c != '\n'

/-! ### Named sets -/

def isBlank (m : Mode) (c : Char) : Bool :=
  if m.isAscii then c == ' ' || ('\t' ≤ c && c ≤ '\r') else Text.isBlank c

def isDigit (m : Mode) (c : Char) : Bool := if m.isAscii then c.isDigit else Text.isDigit c

def isWordChar (m : Mode) (c : Char) : Bool :=
  if m.isAscii then c.isAlphanum || c == '_' else Text.isWordChar c

/-- The set that a letter names after a backslash. -/
def namedSet? (m : Mode) (c : Char) : Option (Char → Bool) :=
  match c with
  | 's' => some m.isBlank
  | 'S' => some (!m.isBlank ·)
  | 'd' => some m.isDigit
  | 'D' => some (!m.isDigit ·)
  | 'w' => some m.isWordChar
  | 'W' => some (!m.isWordChar ·)
  | _ => none

/-! ### Places -/

/-- Whether a place is the beginning of the text, or of a line. -/
def isStart (m : Mode) (text : Array Char) (i : Nat) : Bool :=
  i == 0 || (m.isLinewise && text[i - 1]? == some '\n')

/-- Whether a place is the end of the text, or of a line. A line feed that ends the text may
follow. -/
def isStop (m : Mode) (text : Array Char) (i : Nat) : Bool :=
  text.size ≤ i || (text[i]? == some '\n' && (m.isLinewise || text.size == i + 1))

/-- Whether a word begins or ends at a place. -/
def isEdge (m : Mode) (text : Array Char) (i : Nat) : Bool :=
  (i != 0 && text[i - 1]?.any m.isWordChar) != text[i]?.any m.isWordChar

/-- The place that a letter names after a backslash. An empty text has neither a place where a word
begins or ends nor one where none does. -/
def namedPlace? (m : Mode) (c : Char) : Option (Array Char → Nat → Bool) :=
  match c with
  | 'A' => some fun _ i => i == 0
  | 'Z' => some fun text i => text.size ≤ i
  | 'b' => some m.isEdge
  | 'B' => some fun text i => !text.isEmpty && !m.isEdge text i
  | _ => none

end Mode

end BrightLint.Regex
