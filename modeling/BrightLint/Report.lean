import BrightLint.Message.Notice
import BrightLint.Parsing.Run

/-!
The report on a project: which files were linted, what was found in them, and what is printed.

* `lintText`: lints one text
* `Report.record`: takes the result of a file into the report
* `Report.printFile`: prints the warnings of a file as soon as they are there
* `Report.summarise`: prints the errors and the totals
-/

namespace BrightLint

/-- The result for a text: problems that make it unusable, or else warnings. -/
inductive FileResult where
  | failed (problems : List String)
  | passed (warnings : List String)
deriving DecidableEq, Repr

/-- The result of a reading. -/
def Reading.result (r : Reading) : FileResult :=
  if r.problems.isEmpty then .passed r.warningTexts else .failed (r.problems.map Problem.text)

/-- Lints a text, with or without parsing it. The words asked about are given with the result, the
latest first. -/
def lintText (p : Profile) (lexOnly : Bool) (text : List Char) :
    Except Fault FileResult × List String :=
  if lexOnly then
    match (Reading.read p text).run .fresh with
    | .ok () r => (.ok r.result, r.asked)
    | .error f r => (.error f, r.asked)
  else
    match (Parsing.parse p text).run {} with
    | .ok () s => (.ok s.reading.result, s.reading.asked)
    | .error f s => (.error f, s.reading.asked)

/-- The messages of files, in the order of the files. -/
abbrev Messages := List (String × List String)

/-- Sets the messages of a file. -/
def Messages.put (path : String) (lines : List String) : Messages → Messages
  | [] => [(path, lines)]
  | (p, ls) :: rest => if p == path then (p, lines) :: rest else (p, ls) :: put path lines rest

/-- A report in the making. -/
structure Report where
  /-- Whether nothing was found so far. -/
  isCorrect : Bool := true
  /-- The source files, in the order in which they were linted. -/
  files : List String := []
  errors : Messages := []
  warnings : Messages := []
  errorTotal : Nat := 0
  warningTotal : Nat := 0
  /-- What was printed. -/
  out : String := ""
deriving DecidableEq, Repr

namespace Report

def print (text : String) (r : Report) : Report := { r with out := r.out ++ text }

/-- Prints a notice. -/
def tell (n : Notice) (params : List String) (r : Report) : Report := r.print (n.line params)

/-- Takes the result of a file into the report. -/
def record (path : String) (result : FileResult) (r : Report) : Report :=
  match result with
  | .failed problems =>
    { r with
      isCorrect := false
      errors := Messages.put path (problems.map fun m => Notice.error.line [m]) r.errors }
  | .passed [] => r
  | .passed warnings =>
    { r with
      isCorrect := false
      warnings := Messages.put path (warnings.map fun m => Notice.warning.line [m]) r.warnings }

/-- Prints the name of a file and its messages. -/
def printMessages (path : String) (lines : List String) (r : Report) : Report :=
  (r.tell .fileName ["file://" ++ path]).print (String.join lines)

/-- Prints the warnings of a file, if it has any, and counts them. -/
def printFile (path : String) (r : Report) : Report :=
  match r.warnings.lookup path with
  | none => r
  | some lines =>
    let r := r.printMessages path lines
    { r with warningTotal := r.warningTotal + lines.length }.tell .warningsInFile
      [toString lines.length]

/-- Prints the errors of every file, and counts them. -/
def printErrors (r : Report) : Report :=
  r.errors.foldl (fun r (path, lines) =>
    { r.printMessages path lines with errorTotal := r.errorTotal + lines.length }) r

/-- Prints the errors and the totals. -/
def summarise (r : Report) : Report :=
  let r := r.printErrors.tell .complete []
  if r.isCorrect then r.tell .allCorrect []
  else (r.tell .totalWarnings [toString r.warningTotal]).tell .totalErrors [toString r.errorTotal]

end Report

end BrightLint
