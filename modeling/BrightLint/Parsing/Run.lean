import BrightLint.Parsing.State
import BrightLint.Reading.Run

/-!
Parsing a source text: each statement is reduced when it ends, and the symbols of the statements
are then reduced to one block.

* `checkStatement`: reduces a statement and adds its symbol to the program
* `checkProgram`: reduces the program
* `parse`: a whole text
-/

namespace BrightLint.Parsing

/-- Reduces a statement and adds its symbol to the program. -/
def checkStatement (types : List Symbol) : Parse Unit := fun s =>
  let s := { s with isStarted := true }
  match s.bench.check types with
  | .ok x b =>
    let s := { s with bench := b, program := s.program ++ x.toList }.record b.steps
    .ok () (s.note types (.ok (s.program.length, b.grammar)))
  | .error f b => .error f (({ s with bench := b }.record b.steps).note types (.error f))

/-- Reduces the program that lies on the bench to one symbol. A single block is a program as it
stands; the answer is whether there was anything to reduce. -/
def checkProgram : Parse Bool := fun s =>
  if s.current = [.block] then .ok false s
  else
    let r := reduceProgram s.current
    let s := { s with
      program := r.final, bench := { s.bench with grammar := .program } }.record r.steps
    if r.done then .ok true s else .error (.unparsed .program) s

/-- Reads one lexeme, and checks the statement that it may have ended. -/
def readLexeme (p : Profile) (x : Lexeme) : Parse Unit := do
  if ← (Reading.advance p x).asParse then
    checkStatement ((← get).reading.statement.map Token.symbol)
    modify fun s => { s with reading := s.reading.beginStatement }

/-- Reads a text, checking each statement as it ends. -/
def readText (p : Profile) (text : List Char) : Parse Unit := do
  modify fun s => { s with reading := s.reading.start text, checks := [] }
  let (xs, rest) := scan text
  xs.forM (readLexeme p)
  (Reading.finish p rest).asParse

/-- Checks the statement that the end of the text ends. One that cannot be reduced is left to the
program as far as it was reduced. -/
def checkLast : Parse Unit := do
  tryCatch (do checkStatement ((← get).reading.statement.map Token.symbol)) fun
    | .unparsed _ => modify fun s => { s with program := s.program ++ s.current }
    | f => throw f

/-- Parses a text. Code that is not a program is a problem of the text, not a fault. -/
def parse (p : Profile) (text : List Char) : Parse Unit := do
  tryCatch
    (do
      readText p text
      if (← get).reading.problems.isEmpty then
        checkLast
        modify layProgram
        let _ ← checkProgram) fun
    | .unparsed stage => modify (recordUnparsed stage)
    | f => throw f

end BrightLint.Parsing
