import BrightLint.Parsing.Bench
import BrightLint.Reading.State

/-!
The state of a parsing: a reading whose statements are reduced as they end, and the program that
the reduced statements make up.
-/

namespace BrightLint

/-- What is kept of the check of a statement: its symbols, and then the fault, or how long the
program had become and which grammar was in use. -/
structure StatementCheck where
  types : List Symbol
  outcome : Except Fault (Nat × GrammarName)

/-- A parsing of source texts. -/
structure Parsing where
  reading : Reading := .fresh
  bench : Bench := {}
  /-- Whether a statement was ever laid on the bench. -/
  isStarted : Bool := false
  /-- What the statements were reduced to. -/
  program : List Symbol := []
  statementSteps : List (List Symbol) := []
  programSteps : List (List Symbol) := []
  /-- Whether reductions are recorded as those of the program. -/
  onProgram : Bool := false
  /-- The checks of statements of the current text, the latest first. -/
  checks : List StatementCheck := []

/-- A step of a parsing. -/
abbrev Parse := EStateM Fault Parsing

namespace Parsing

/-- The list that is being reduced. -/
def current (s : Parsing) : List Symbol := s.bench.part.getD s.program

/-- Records reductions. -/
def record (steps : List (List Symbol)) (s : Parsing) : Parsing :=
  if s.onProgram then { s with programSteps := s.programSteps ++ steps }
  else { s with statementSteps := s.statementSteps ++ steps }

/-- Takes note of a check of a statement. -/
def note (types : List Symbol) (outcome : Except Fault (Nat × GrammarName)) (s : Parsing) : Parsing :=
  { s with checks := ⟨types, outcome⟩ :: s.checks }

/-- Lays the program on the bench. -/
def layProgram (s : Parsing) : Parsing :=
  { s with bench := { s.bench with place := 0, openings := [0], part := none }, onProgram := true }

/-- Records that the code is not a program: the line before the one reached is named. -/
def recordUnparsed (stage : Stage) (s : Parsing) : Parsing :=
  { s with reading := { s.reading with
      problems := s.reading.problems ++ [.unparsed stage (s.reading.line - 1)] } }

end Parsing

/-- A step of the reading as a step of the parsing. -/
def Lint.asParse {α : Type} (x : Lint α) : Parse α := fun s =>
  match x s.reading with
  | .ok a r => .ok a { s with reading := r }
  | .error f r => .error f { s with reading := r }

end BrightLint
