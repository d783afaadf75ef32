import BrightLint.Regex.Mode
import BrightLint.Regex.Progress

/-!
What stands for something other than itself: a character after a backslash, and a set of characters
in square brackets.
-/

namespace BrightLint.Regex

/-- The code point that a letter names after a backslash. -/
def namedCode? (c : Char) : Option Nat :=
  match c with
  | 'a' => some 0x07
  | 't' => some 0x09
  | 'n' => some 0x0A
  | 'v' => some 0x0B
  | 'f' => some 0x0C
  | 'r' => some 0x0D
  | _ => none

namespace Read

/-- The code point of a character after a backslash: named, or numbered, or that of the character
itself unless it is a letter or a digit. -/
def codeAfter (c : Char) : Read Nat := do
  match namedCode? c, c with
  | some n, _ => return n
  | none, 'x' => hexCode 2
  | none, 'u' => hexCode 4
  | none, 'U' => hexCode 8
  | none, c => if c.isAlphanum then malformed else return c.toNat

/-! ### Items -/

/-- Whether an item of an expression may be repeated. -/
inductive ItemKind where
  | plain | place | repeated
deriving DecidableEq, Repr

/-- An item of an expression. -/
structure Item where
  body : Regex
  kind : ItemKind := .plain

/-- The text of a group once more. -/
def recallItem (m : Mode) (id : Nat) : Read Item := do
  if !(← canRecall id) then malformed
  noteRecall id
  return { body := .again m.compared id }

/-- An item that starts with a backslash and a digit: three digits to base eight are a code point,
as are two or fewer after a zero, and other digits are the number of a group. -/
def numberedItem (m : Mode) (d : Char) : Read Item := do
  if d = '0' then
    return { body := .one (m.code (numeral 8 (← take 2 isOctalDigit))) }
  let more := (← get).rest.take 2
  if isOctalDigit d && more.length == 2 && more.all (Sign.isPlain isOctalDigit) then
    return { body := .one (m.code (← byteCode (numeral 8 (d :: (← take 2 isOctalDigit))))) }
  recallItem m (numeral 10 (d :: (← take 1 Char.isDigit)))

/-- An item that starts with a backslash and a given character. -/
def escapedItem (m : Mode) (c : Char) : Read Item := do
  match m.namedPlace? c, m.namedSet? c with
  | some test, _ => return { body := .anchor test, kind := .place }
  | none, some test => return { body := .one test }
  | none, none =>
    if c.isDigit then numberedItem m c else return { body := .one (m.code (← codeAfter c)) }

/-! ### Sets -/

/-- A member of a set: a character, or a set of its own. -/
inductive Member where
  | code (n : Nat)
  | set (test : Char → Bool)

def Member.test (m : Mode) : Member → Char → Bool
  | code n => m.code n
  | set test => test

/-- The member of a set that a sign begins. -/
def member (m : Mode) : Sign → Read Member
  | .plain c => return .code c.toNat
  | .half n => return .code (Text.Point.half n).code
  | .cut => malformed
  | .escaped c => do
    if let some test := m.namedSet? c then return .set test
    if c = 'b' then return .code 0x08
    if isOctalDigit c then
      return .code (← byteCode (numeral 8 (c :: (← take 2 isOctalDigit))))
    return .code (← codeAfter c)

/-- The members of a set up to its closing bracket. A bracket in first place is a member. -/
def members (m : Mode) : Nat → Option (Char → Bool) → Read (Char → Bool)
  | 0, _ => malformed
  | fuel + 1, sofar => do
    let add (test : Char → Bool) (c : Char) : Bool := test c || sofar.any (· c)
    let some sign ← next? | malformed
    match sofar, sign with
    | some test, .plain ']' => return test
    | _, _ =>
      let first ← member m sign
      if !(← accept '-') then members m fuel (some (add (first.test m)))
      else
        let some sign ← next? | malformed
        if sign = .plain ']' then
          return add fun c => first.test m c || m.code '-'.toNat c
        match first, ← member m sign with
        | .code lo, .code hi =>
          if hi < lo then malformed else members m fuel (some (add (m.inRange lo hi)))
        | _, _ => malformed

/-- A set, its opening bracket having been read. -/
def setItem (m : Mode) : Read Item := do
  let negated ← accept '^'
  let test ← members m ((← get).rest.length + 1) none
  return { body := .one fun c => test c != negated }

end Read

end BrightLint.Regex
