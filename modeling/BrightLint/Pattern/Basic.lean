import BrightLint.Fault
import BrightLint.Text.Word
import BrightLint.Text.Fold
import BrightLint.Text.Blank

/-!
Patterns of text, as the checks are made of them. A pattern is asked one question only: does some
beginning of a text fit it?

* `Pattern.ends`: the places at which a match that starts at a given place can end
* `Pattern.fits`: whether some beginning of a text fits

A place is the number of characters before it. The places that a repetition reaches are collected
round by round, and none is gone on from twice, so the work stays polynomial in the length of the
text.
-/

namespace BrightLint

/-- A pattern of text. -/
inductive Pattern where
  /-- The empty text. -/
  | empty
  /-- One character with a property. -/
  | one (test : Char → Bool)
  /-- One pattern after the other. -/
  | seq (p q : Pattern)
  /-- One pattern or the other. -/
  | either (p q : Pattern)
  /-- A pattern at least `least` times and, if there is a bound, at most `most` times. -/
  | times (least : Nat) (most : Option Nat) (p : Pattern)
  /-- The start of the text. -/
  | start
  /-- The end of the text, or the place before a line feed that ends it. -/
  | stop
  /-- A place between a word character and something else. -/
  | edge

/-! ### Rounds -/

/-- The places reached by `n` rounds of a step. -/
def afterRounds (f : Nat → List Nat) : Nat → List Nat → List Nat
  | 0, places => places
  | _ + 1, [] => []
  | n + 1, places => afterRounds f n (places.flatMap f).eraseDups

/-- The places reached by at most `n` rounds of a step from the latest of the places seen. -/
def withinRounds (f : Nat → List Nat) : Nat → List Nat → List Nat → List Nat
  | 0, seen, _ => seen
  | _ + 1, seen, [] => seen
  | n + 1, seen, latest =>
    let new := (latest.flatMap f).eraseDups.filter (!seen.contains ·)
    withinRounds f n (new ++ seen) new

namespace Pattern

/-! ### Matches -/

/-- Whether the character at a place, if there is one, belongs to a word. -/
def isWordAt (text : Array Char) (i : Nat) : Bool := text[i]?.any Text.isWordChar

/-- Whether a word begins or ends at a place. -/
def isWordEdge (text : Array Char) (i : Nat) : Bool :=
  (i != 0 && isWordAt text (i - 1)) != isWordAt text i

/-- Whether nothing follows a place but a line feed. -/
def isLast (text : Array Char) (i : Nat) : Bool :=
  text.size ≤ i || (text.size == i + 1 && text[i]? == some '\n')

/-- The places at which a match that starts at place `i` can end. A repetition without bound is
bounded by the length of the rest of the text: a round that matters moves forward. -/
def ends (text : Array Char) : Pattern → Nat → List Nat
  | empty, i => [i]
  | one test, i => if text[i]?.any test then [i + 1] else []
  | seq p q, i => ((p.ends text i).flatMap (q.ends text)).eraseDups
  | either p q, i => (p.ends text i ++ q.ends text i).eraseDups
  | times least most p, i =>
    let sure := afterRounds (p.ends text) least [i]
    let more := match most with
      | some m => m - least
      | none => text.size - i
    if most.any (· < least) then [] else withinRounds (p.ends text) more sure sure
  | start, i => if i = 0 then [i] else []
  | stop, i => if isLast text i then [i] else []
  | edge, i => if isWordEdge text i then [i] else []

/-- Whether some beginning of a text fits the pattern. -/
def fits (p : Pattern) (s : List Char) : Bool := !(p.ends s.toArray 0).isEmpty

/-! ### Compound patterns -/

/-- One given character. -/
def char (c : Char) : Pattern := one (· == c)

/-- A given text. -/
def literal : List Char → Pattern
  | [] => empty
  | c :: s => seq (char c) (literal s)

/-- A given text in any case. -/
def literalFolded : List Char → Pattern
  | [] => empty
  | c :: s => seq (one (Text.fold · == Text.fold c)) (literalFolded s)

/-- Several patterns one after the other. -/
def chain : List Pattern → Pattern
  | [] => empty
  | [p] => p
  | p :: ps => seq p (chain ps)

def optional (p : Pattern) : Pattern := times 0 (some 1) p
def many (p : Pattern) : Pattern := times 0 none p
def many1 (p : Pattern) : Pattern := times 1 none p

/-- White space, and anything that is not white space. -/
def blank : Pattern := one Text.isBlank
def solid : Pattern := one (!Text.isBlank ·)

/-- Any character but a line feed. -/
def inLine : Pattern := one (· != '\n')

/-! ### Counts -/

/-- The number of rounds from which on a repetition is too long to be stated. -/
def roundLimit : Nat := 4294967295

/-- A pattern with a text in braces after it that stands for itself, its letters being compared by
`same`. -/
def braced (p : Pattern) (same : List Char → Pattern) (s : String) : Pattern :=
  seq p (same ('\x7b' :: s.toList ++ ['\x7d']))

/-- A pattern exactly `n` times. A negative number in braces is no count and stands for itself. -/
def exactly? (p : Pattern) (same : List Char → Pattern) (n : Int) : Except Fault Pattern :=
  if n < 0 then .ok (p.braced same (toString n))
  else if roundLimit ≤ n.toNat then .error .tooManyRounds
  else .ok (times n.toNat (some n.toNat) p)

end Pattern

end BrightLint
