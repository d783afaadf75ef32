import BrightLint.Check.Basic
import BrightLint.Json.Number
import BrightLint.Pattern.Basic
import BrightLint.Text.Span

/-!
The spaces around an operator: exactly as many as the settings ask for on either side.
-/

namespace BrightLint.Check

/-- An operator with a gap on either side, between at most one solid character before and one
after. -/
def operatorPattern (op : List Char) (gap : Pattern) : Pattern :=
  .chain [.optional .solid, gap, .literal op, gap, .optional .solid, .stop]

/-- The gap that a number of spaces makes. A truth value in braces stands for itself. -/
def operatorGap (spaces : Json) : Except Fault Pattern :=
  match spaces with
  | .int n => Pattern.blank.exactly? .literal n
  | v => .ok (Pattern.blank.braced .literal v.text)

/-- Complains of an operator that ends at a place of a text, unless what stands around it is as it
should be. -/
def findOperatorSpacing (s : Settings) (text : List Char) (place : Int) (op : List Char) :
    Verdict := whenActive s .operatorSpacing do
  let spaces ← s.param .operatorSpacing "spaces_around_operators"
  let n ← spaces.number
  let around := Span.between (place - n - 1 - op.length) (place + n + 1) text
  if (operatorPattern op (← operatorGap spaces)).fits around then return none
  else return some ⟨.operatorSpacing, [spaces]⟩

end BrightLint.Check
