import BrightLint.Regex.Basic
import BrightLint.Text.Point
import BrightLint.Text.Word
import BrightLint.Fault

/-!
The text of an expression as it is read: sign by sign, a backslash and the character after it being
one sign. What has been read leaves behind which groups there are and which of them are looked at.
-/

namespace BrightLint.Regex

/-- A sign of the text of an expression. -/
inductive Sign where
  | plain (c : Char)
  | escaped (c : Char)
  /-- Half a character, which stands for itself also after a backslash. -/
  | half (n : Fin 0x800)
  /-- A backslash with nothing after it. -/
  | cut
deriving DecidableEq, Repr

/-- The characters of a sign as part of a name, in which a half has no place. -/
def Sign.chars : Sign → List Char
  | plain c => [c]
  | escaped c => ['\\', c]
  | half n => [(Text.Point.half n).shown]
  | cut => ['\\']

/-- Whether a sign is a plain character with a property. -/
def Sign.isPlain (test : Char → Bool) : Sign → Bool
  | plain c => test c
  | _ => false

/-- The signs that a text is spelt out with. -/
def signs : List Text.Point → List Sign
  | .whole '\\' :: .whole c :: rest => .escaped c :: signs rest
  | .whole '\\' :: .half n :: rest => .half n :: signs rest
  | [.whole '\\'] => [.cut]
  | .whole c :: rest => .plain c :: signs rest
  | .half n :: rest => .half n :: signs rest
  | [] => []

/-- Whether a character is passed over where white space does not count. -/
def isGap (c : Char) : Bool := c == ' ' || ('\t' ≤ c && c ≤ '\r')

/-- How far the reading of an expression has come. -/
structure Progress where
  rest : List Sign
  /-- How many groups have been opened. -/
  groups : Nat := 0
  names : List (List Char × Nat) := []
  /-- The widths of the groups that have been closed. -/
  closed : List (Nat × Width) := []
  /-- The groups that are looked at. -/
  recalled : List Nat := []
  /-- How many groups there were when a look back began. -/
  behind : Option Nat := none
  /-- Whether something has been read that makes the whole malformed, well formed as it is. -/
  isUnusable : Bool := false

/-- Why a text stands for no expression. -/
inductive Flaw where
  | malformed
  | tooManyRounds
deriving DecidableEq, Repr

/-- A flaw as a fault. -/
def Flaw.fault : Flaw → Fault
  | malformed => .malformedPattern
  | tooManyRounds => .tooManyRounds

/-- A step of reading an expression. -/
abbrev Read := StateT Progress (Except Flaw)

namespace Read

def malformed {α : Type} : Read α := throw .malformed

/-- The next sign, if there is one. -/
def next? : Read (Option Sign) := do
  match (← get).rest with
  | [] => return none
  | s :: rest =>
    modify fun p => { p with rest := rest }
    return some s

/-- Takes a given character, if it comes next. -/
def accept (c : Char) : Read Bool := do
  match (← get).rest with
  | .plain d :: rest =>
    if c = d then
      modify fun p => { p with rest := rest }
      return true
    else return false
  | _ => return false

def expect (c : Char) : Read Unit := do
  if !(← accept c) then malformed

/-- Takes the plain characters that come next and have a property, up to a number of them. -/
def take (most : Nat) (test : Char → Bool) : Read (List Char) := do
  let taken := ((← get).rest.take most).takeWhile (Sign.isPlain test)
  modify fun p => { p with rest := p.rest.drop taken.length }
  return taken.flatMap Sign.chars

/-- All that comes next and has a property. -/
def takeAll (test : Char → Bool) : Read (List Char) := do
  take (← get).rest.length test

/-- Passes over everything up to a given character and over that character. -/
def skipPast (stop : Char) : Read (List Sign) := do
  let passed := (← get).rest.takeWhile (· != .plain stop)
  match (← get).rest.drop passed.length with
  | [] => malformed
  | _ :: rest =>
    modify fun p => { p with rest := rest }
    return passed

/-- Passes over a remark, which ends with its line or with the text. -/
def skipRemark : Read Unit := do
  let rest := (← get).rest.dropWhile fun s => s != .plain '\n' && s != .cut
  modify fun p => { p with rest := if rest.head? = some .cut then rest else rest.drop 1 }

/-! ### Numbers -/

/-- The number that digits stand for. -/
def numeral (base : Nat) (ds : List Char) : Nat :=
  ds.foldl (fun n d => base * n + (if d.isDigit then d.toNat - 48 else d.toLower.toNat - 87)) 0

def isHexDigit (c : Char) : Bool := c.isDigit || ('a' ≤ c.toLower && c.toLower ≤ 'f')

def isOctalDigit (c : Char) : Bool := '0' ≤ c && c ≤ '7'

/-- A code point of a given number of digits to base sixteen. -/
def hexCode (digits : Nat) : Read Nat := do
  let ds ← take digits isHexDigit
  let n := numeral 16 ds
  if ds.length = digits && n ≤ 0x10FFFF then return n else malformed

/-- A code point of a single byte. -/
def byteCode (n : Nat) : Read Nat := if n ≤ 0xFF then return n else malformed

/-! ### Groups -/

/-- Whether a text can be the name of a group. -/
def isName : List Char → Bool
  | [] => false
  | c :: cs => (Text.isLetter c || c == '_') && cs.all Text.isWordChar

/-- A name up to a given character. -/
def name (stop : Char) : Read (List Char) := do
  let passed ← skipPast stop
  if passed.isEmpty then malformed else return passed.flatMap Sign.chars

/-- The group of a given name. -/
def named (n : List Char) : Read Nat := do
  match (← get).names.lookup n with
  | some id => return id
  | none => malformed

/-- Opens a group. No two groups have the same name. -/
def openGroup (name : Option (List Char)) : Read Nat := do
  let id := (← get).groups + 1
  modify fun p => { p with groups := id }
  if let some n := name then
    if ((← get).names.lookup n).isSome then malformed
    modify fun p => { p with names := (n, id) :: p.names }
  return id

def closeGroup (id : Nat) (p : Regex) : Read Unit :=
  modify fun s => { s with closed := (id, p.width s.closed) :: s.closed }

/-- Whether a group may be recalled: it has to be closed, and a look back may not recall its own
groups. -/
def canRecall (id : Nat) : Read Bool := do
  let p ← get
  return (p.closed.lookup id).isSome && p.behind.all (id ≤ ·)

/-- Records that a group is looked at. -/
def noteRecall (id : Nat) : Read Unit :=
  modify fun p => { p with recalled := id :: p.recalled }

end Read

end BrightLint.Regex
