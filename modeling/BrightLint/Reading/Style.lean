import BrightLint.Reading.State
import BrightLint.Check.Line
import BrightLint.Check.Indentation
import BrightLint.Check.Operator
import BrightLint.Check.Declaration
import BrightLint.Check.Comment

/-!
The style checks in the course of a reading: which check a lexeme calls for, and what happens at
the end of a line.
-/

namespace BrightLint

/-- What a lexeme can call for. -/
inductive Inspection where
  | comment | operator | spelling | tracing | declaration | skipLine | skipFile
deriving DecidableEq, Repr

/-- What a kind of lexeme calls for. -/
def Kind.inspection? : Kind → Option Inspection
  | .comment => some .comment
  | .operator => some .operator
  | .ident => some .spelling
  | .printWord => some .tracing
  | .functionWord | .subWord => some .declaration
  | _ => none

namespace Topic

/-- What a topic calls for. The command of a directive may also be the name of a kind. -/
def inspection? : Topic → Option Inspection
  | .kind k => k.inspection?
  | .directive command =>
    if command = Check.skipLine.key then some .skipLine
    else if command = Check.skipFile.key then some .skipFile
    else (Kind.ofName? command).bind Kind.inspection?

/-- Whether the words of a lexeme are those of a comment. -/
def isComment : Topic → Bool
  | .kind k => k == .comment
  | .directive command => command == Kind.comment.name

end Topic

namespace Reading

/-! ### Lexemes -/

/-- Looks up the words of a lexeme. -/
def checkSpelling (p : Profile) (t : Topic) (text : List Char) : Lint Unit := do
  let (complaint, asked) ← Lint.ofExcept (Check.findSpelling p.settings p.knows text t.isComment)
  modify fun r => { r with asked := asked.reverse ++ r.asked }
  Lint.report (.ok complaint)

/-- Makes the check that a topic calls for. -/
def inspect (p : Profile) (t : Topic) (text : List Char) : Lint Unit := do
  match t.inspection? with
  | none => pure ()
  | some .comment => do
    Lint.report (Check.findComment p.settings text)
    checkSpelling p t text
  | some .operator => do
    let r ← get
    Lint.report (Check.findOperatorSpacing p.settings r.text r.position text)
  | some .spelling => checkSpelling p t text
  | some .tracing => Lint.report (Check.findTracing p.settings)
  | some .declaration => do
    let r ← get
    Lint.report (Check.findDeclarationSpacing p.settings r.text)
  | some .skipLine => do
    let r ← get
    let line ← Lint.ofExcept (Check.skippedLine p.settings r.line)
    set { r with skipLine := line }
  | some .skipFile => do
    let r ← get
    let v ← Lint.ofExcept (Check.skipsFile p.settings)
    set { r with skipFile := v }

/-! ### Ends of lines -/

/-- Checks the indentation of a line that has ended. -/
def checkIndentation (p : Profile) (line : List Char) : Lint Unit := do
  let r ← get
  match ← Lint.ofExcept (Check.findIndentation p.settings r.level line r.shift) with
  | none => pure ()
  | some (complaint, level) => do
    Lint.report (.ok complaint)
    modify fun r => { r with level := level, shift := 0 }

/-- The checks at the end of a line. -/
def checkLine (p : Profile) : Lint Unit := do
  if !(← get).isChecked then return
  modify fun r => { r with toLayout := r.countLine }
  Lint.report (Check.findLongLine p.settings (.int (← get).lineLength))
  Lint.report (Check.findEmptyLines p.settings (.int (← get).emptyLines))
  let line ← Lint.ofExcept (← get).lastLine
  Lint.report (Check.findTrailingBlank p.settings line)
  checkIndentation p line

end Reading

end BrightLint
