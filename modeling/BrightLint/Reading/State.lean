import BrightLint.Token
import BrightLint.Check.Basic
import BrightLint.Check.Spelling
import BrightLint.Text.Span
import BrightLint.Text.Lines

/-!
The state of a reading: what is known of a source text after some of its lexemes.

* `Topic`: what the latest lexeme is about; a directive is about what its command names
* `Layout`: the place in the text, its lines, their indentation, and the open brackets
* `Reading`: the layout with what the text has given so far: tokens, problems, statements
* `Lint`: a step of a reading, which may end in a fault; what was done before a fault stays done

What comes in the course of a reading is held with the latest first: tokens, warnings and words
asked about.
-/

namespace BrightLint

/-- What a lexeme is about. -/
inductive Topic where
  | kind (k : Kind)
  /-- A directive, with its command. -/
  | directive (command : String)
deriving DecidableEq, Repr

/-- A problem that makes a file unusable. -/
inductive Problem where
  | unmatchedQuote (rest : String) (line : Nat)
  | unparsed (stage : Stage) (line : Int)
deriving DecidableEq, Repr

/-- The text of a problem. -/
def Problem.text : Problem → String
  | unmatchedQuote rest line => Finding.unmatchedQuote.template.fill [rest, toString line]
  | unparsed .statement line => Finding.statementUnparsed.template.fill [toString line]
  | unparsed .program line => Finding.programUnparsed.template.fill [toString line]

/-- The place in a text, and what the style checks and the brackets have to remember there. -/
structure Layout where
  text : List Char
  /-- How many characters were read; a negative number counts from the end. -/
  position : Int := 0
  line : Nat := 1
  lineLength : Nat := 0
  /-- Whether the line has nothing on it that counts. -/
  isEmptyLine : Bool := true
  emptyLines : Nat := 0
  /-- The level at which the next line has to stand, before its own words count. -/
  level : Int := 0
  /-- What the words of the line add to the indentation. -/
  shift : Int := 0
  /-- What a directive to skip the file left behind; if it counts as true, nothing is checked. -/
  skipFile : Json := .bool false
  /-- The line on which nothing is checked. -/
  skipLine : Option Int := some (-1)
  statementEnded : Bool := false
  openCurly : Int := 0
  openSquare : Int := 0
  openFunction : Int := 0
  /-- How many functions are open inside an object. -/
  inObject : Int := 0
  topic : Option Topic := none
  warnings : List Warning := []

/-- A reading of source texts. -/
structure Reading extends Layout where
  tokens : List Token := []
  /-- How many tokens belong to earlier statements. -/
  statementStart : Nat := 0
  statements : Nat := 0
  problems : List Problem := []
  /-- The words that the dictionary was asked about. -/
  asked : List String := []

/-- What a reading needs to know: the settings and the dictionary. -/
structure Profile where
  settings : Settings
  knows : Dictionary

/-- A step of a reading. -/
abbrev Lint := EStateM Fault Reading

namespace Layout

/-- Whether the style checks are made on the current line. -/
def isChecked (l : Layout) : Bool := l.skipLine != some (l.line : Int) && !l.skipFile.isTrue

/-- Whether a bracket or a function is open, so that a statement cannot end. -/
def isInside (l : Layout) : Bool := l.openCurly != 0 || l.openSquare != 0 || l.openFunction != 0

/-- Counts a line that has ended. -/
def countLine (l : Layout) : Layout :=
  if l.isEmptyLine then { l with emptyLines := l.emptyLines + 1 }
  else { l with isEmptyLine := true, emptyLines := 0 }

/-- What is still to be read. -/
def rest (l : Layout) : List Char := Span.onward l.position l.text

/-- The line that ends at the place reached; before the first character there is none. -/
def lastLine (l : Layout) : Except Fault (List Char) :=
  if l.position = 0 then .ok []
  else match Text.lastLine? (Span.place l.text.length l.position) l.text with
    | some line => .ok line
    | none => .error .badIndex

end Layout

namespace Reading

/-- A reading before any text. -/
def fresh : Reading := { text := [] }

/-- A reading that starts on a text. What earlier texts gave is kept. -/
def start (r : Reading) (text : List Char) : Reading := { r with toLayout := { text := text } }

/-- The tokens in order. -/
def allTokens (r : Reading) : List Token := r.tokens.reverse

/-- The tokens of the current statement in order. -/
def statement (r : Reading) : List Token := r.allTokens.drop r.statementStart

/-- The warnings in order, as texts. -/
def warningTexts (r : Reading) : List String := r.warnings.reverse.map Warning.text

/-- Adds a token. -/
def push (t : Token) (r : Reading) : Reading := { r with tokens := t :: r.tokens }

/-- Adds a complaint as a warning on the current line. -/
def warn (c : Complaint) (r : Reading) : Reading :=
  { r with warnings := ⟨c, r.line⟩ :: r.warnings }

/-- Moves on over a lexeme. -/
def moveOver (x : Lexeme) (r : Reading) : Reading :=
  { r with
    lineLength := r.lineLength + x.text.length
    position := r.position + x.text.length }

/-- Lets the next statement begin. -/
def beginStatement (r : Reading) : Reading :=
  { r with statementEnded := false, statementStart := r.tokens.length }

end Reading

namespace Lint

/-- A value that may be a fault. -/
def ofExcept {α : Type} : Except Fault α → Lint α
  | .ok a => pure a
  | .error f => throw f

/-- Turns the complaint of a check into a warning. -/
def report (v : Verdict) : Lint Unit := do
  if let some c ← ofExcept v then modify (·.warn c)

/-- A step in which a missing key of the settings is passed over. -/
def passMissing (x : Lint Unit) : Lint Unit :=
  tryCatch x fun
    | .missingKey => pure ()
    | f => throw f

end Lint

end BrightLint
