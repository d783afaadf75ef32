import BrightLint.Settings.Basic
import BrightLint.Message.Finding

/-!
What a style check says: nothing, or a complaint, which becomes a warning on the line on which it
was raised.
-/

namespace BrightLint

/-- What a check has found wrong, with the parameters of its message but without a line. -/
structure Complaint where
  finding : Finding
  params : List Json := []

/-- A complaint on a line. -/
structure Warning where
  complaint : Complaint
  line : Nat

/-- The text of a warning. -/
def Warning.text (w : Warning) : String :=
  w.complaint.finding.template.fill (w.complaint.params.map Json.text ++ [toString w.line])

/-- The outcome of a check: a complaint or none, unless the settings do not allow the check. -/
abbrev Verdict := Except Fault (Option Complaint)

/-- A check that is only made when it is active. -/
def whenActive {α : Type} (s : Settings) (c : Check) (body : Except Fault (Option α)) :
    Except Fault (Option α) := do
  if ← s.isActive c then body else return none

/-- A complaint without parameters. -/
def complain (f : Finding) : Verdict := .ok (some ⟨f, []⟩)

namespace Check

/-- Print statements are complained of wherever they stand. -/
def findTracing (s : Settings) : Verdict := whenActive s .tracing (complain .tracing)

/-- The complaint about a comma that had to be added at the end of a line. -/
def findMissingComma (s : Settings) : Verdict := whenActive s .missingComma (complain .missingComma)

/-- The complaint about a comma before a closing bracket. -/
def findTrailingComma (s : Settings) : Verdict :=
  whenActive s .trailingComma (complain .trailingComma)

/-- The line that a directive to skip the next line names. -/
def skippedLine (s : Settings) (line : Int) : Except Fault (Option Int) :=
  whenActive s .skipLine (.ok (some (line + 1)))

/-- The value that a directive to skip the file leaves behind. -/
def skipsFile (s : Settings) : Except Fault Json := s.activity (.str Check.skipFile.key)

end Check

end BrightLint
