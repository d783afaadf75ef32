import BrightLint.Reading.State

/-!
Brackets and the ends of statements. A statement ends at a colon or at the end of a line, unless a
bracket or a function is open. Inside an object or an array the end of a line counts as a comma,
and a comma before the closing bracket is dropped.

* `Topic.boundary?`: what a lexeme means for brackets and statements
* `addComma`: the comma at the end of a line
* `checkBoundary`: opens and closes brackets, and decides whether the statement has ended
-/

namespace BrightLint

/-- What a lexeme can mean for the brackets and the end of a statement. -/
inductive Boundary where
  | statementEnd | openCurly | closeCurly | openSquare | closeSquare | openFunction | closeFunction
deriving DecidableEq, Repr

/-- What a kind of lexeme means. The end of a function is a matter of directives only. -/
def Kind.boundary? : Kind → Option Boundary
  | .colon => some .statementEnd
  | .openCurly => some .openCurly
  | .closeCurly => some .closeCurly
  | .openSquare => some .openSquare
  | .closeSquare => some .closeSquare
  | .functionWord => some .openFunction
  | _ => none

/-- What a topic means. The command of a directive may also be the name of a kind. -/
def Topic.boundary? : Topic → Option Boundary
  | .kind k => k.boundary?
  | .directive command =>
    if command = Symbol.endFunction.name then some .closeFunction
    else (Kind.ofName? command).bind Kind.boundary?

namespace Reading

/-- Adds the comma that the end of a line stands for, unless one is there or none belongs. -/
def addComma (p : Profile) : Lint Unit := do
  let r ← get
  if (r.openCurly != 0 || r.openSquare != 0) && r.inObject == 0 then
    match r.tokens with
    | [] => throw .badIndex
    | t :: _ =>
      if t.kind != .openCurly && t.kind != .openSquare && t.symbol != .comma then
        set (r.push (.addedComma r.line))
        Lint.report (Check.findMissingComma p.settings)

/-- Drops the comma before a closing bracket, which is the latest token. -/
def dropComma (p : Profile) : Lint Unit := do
  match (← get).tokens with
  | closing :: t :: rest =>
    if t.symbol = .comma then
      Lint.report (Check.findTrailingComma p.settings)
      modify fun r => { r with tokens := closing :: rest }
  | _ => throw .badIndex

/-- Takes note of what a lexeme means. -/
def applyBoundary (p : Profile) : Boundary → Lint Unit
  | .statementEnd => modify fun r => { r with statementEnded := true }
  | .openCurly => modify fun r => { r with openCurly := r.openCurly + 1 }
  | .closeCurly => do
    dropComma p
    modify fun r => { r with openCurly := r.openCurly - 1 }
  | .openSquare => modify fun r => { r with openSquare := r.openSquare + 1 }
  | .closeSquare => do
    dropComma p
    modify fun r => { r with openSquare := r.openSquare - 1 }
  | .openFunction => modify fun r => { r with openFunction := r.openFunction + 1 }
  | .closeFunction => modify fun r => { r with openFunction := r.openFunction - 1 }

/-- Takes note of what the latest lexeme means. A statement does not end while something is
open. -/
def checkBoundary (p : Profile) : Lint Unit := do
  match (← get).topic.bind Topic.boundary? with
  | none => pure ()
  | some b => Lint.passMissing (applyBoundary p b)
  modify fun r => if r.isInside then { r with statementEnded := false } else r

/-- Counts the functions that open and close inside an object. -/
def countFunction (k : Kind) (r : Reading) : Reading :=
  if r.openCurly = 0 then r
  else match k with
    | .functionWord => { r with inObject := r.inObject + 1 }
    | .endFunctionWord => { r with inObject := r.inObject - 1 }
    | _ => r

end Reading

end BrightLint
