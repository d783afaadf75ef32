import BrightLint.Reading.Style
import BrightLint.Reading.Bracket
import BrightLint.Lexeme.Scan

/-!
Reading a source text lexeme by lexeme.

* `applyStyle`: the style checks that a lexeme calls for, and its effect on the layout
* `advance`: one lexeme, up to the question whether it ended a statement
* `readLexeme`: one lexeme, with statements counted
* `read`: a whole text
* `follow`: the states on the way
-/

namespace BrightLint

namespace Reading

/-- The end of a line: it is checked, may stand for a comma, and ends the statement. -/
def endLine (p : Profile) : Lint Unit := do
  modify fun r => { r with statementEnded := true }
  checkLine p
  addComma p
  modify fun r => { r with line := r.line + 1, lineLength := 0 }

/-- Makes the checks that a lexeme calls for. The answer is whether the lexeme counts as part of
a statement, which the end of a line and a directive do not. -/
def applyStyle (p : Profile) (x : Lexeme) : Lint Bool := do
  modify fun r => { r with topic := some (.kind x.kind), shift := r.shift + x.shift }
  match x.kind, x.parts with
  | .newLine, _ => do
    endLine p
    return false
  | .directive, .directive command _ => do
    modify fun r => { r with topic := some (.directive command) }
    Lint.passMissing (inspect p (.directive command) x.text)
    return false
  | k, _ => do
    modify (countFunction k)
    if (← get).isChecked then
      modify fun r => { r with isEmptyLine := false }
      Lint.passMissing (inspect p (.kind k) x.text)
    return true

/-- Reads one lexeme. The answer is whether it ended a statement. -/
def advance (p : Profile) (x : Lexeme) : Lint Bool := do
  modify (moveOver x)
  if x.kind = .blank then return false
  if ← applyStyle p x then
    if let some t := x.token? then
      modify fun r => r.push { t with line := some r.line }
  checkBoundary p
  return (← get).statementEnded

/-- Reads one lexeme and counts the statement that it may have ended. -/
def readLexeme (p : Profile) (x : Lexeme) : Lint Unit := do
  if ← advance p x then
    modify fun r => { r with statements := r.statements + 1 }
    modify beginStatement

/-- Reads the lexeme at the place reached. -/
def readNext (p : Profile) : Lint Unit := do
  match Lexeme.first? (← get).rest with
  | some x => readLexeme p x
  | none => throw .noLexeme

/-- Records that no lexeme starts at the place reached: only a quotation mark can be at fault. -/
def recordUnmatched (r : Reading) : Reading :=
  { r with
    problems := r.problems ++ [.unmatchedQuote (String.ofList (Text.firstLine r.rest)) r.line] }

/-- What follows the last lexeme of a text: the text left over, if there is any, is recorded, and
the last line and the last statement end. -/
def finish (p : Profile) (rest : List Char) : Lint Unit := do
  if !rest.isEmpty then modify recordUnmatched
  checkLine p
  modify fun r => { r with statements := r.statements + 1 }

/-- Reads a text. -/
def read (p : Profile) (text : List Char) : Lint Unit := do
  modify (·.start text)
  let (xs, rest) := scan text
  xs.forM (readLexeme p)
  finish p rest

/-! ### Following a reading -/

/-- The states after each lexeme, up to the first fault. Text left over after the last lexeme is a
fault as well. -/
def trace (p : Profile) (rest : List Char) :
    List Lexeme → Reading → List (EStateM.Result Fault Reading Unit)
  | [], r => if rest.isEmpty then [] else [.error .noLexeme r]
  | x :: xs, r =>
    match (readLexeme p x).run r with
    | .ok () r' => .ok () r' :: trace p rest xs r'
    | .error f r' => [.error f r']

/-- The states in the course of reading a text. -/
def follow (p : Profile) (text : List Char) (r : Reading) :
    List (EStateM.Result Fault Reading Unit) :=
  let (xs, rest) := scan text
  trace p rest xs (r.start text)

end Reading

end BrightLint
