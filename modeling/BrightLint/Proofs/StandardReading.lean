import BrightLint.Proofs.ReadingOutcome

/-!
How a reading ends under the standard settings. They give every check what it asks for, and every
complaint fills its message. So there are two reasons only for which a reading does not return: it
looks back at a token where there is none, or the text has more lines than tabs can be asked for.

* `Check.succeeds_comment` and so on: the checks under the standard settings
* `Profile.answers_standard`: all of them together
* `Reading.read_standard_outcome`: how a whole text ends
-/

namespace BrightLint

/-! ### The standard settings -/

/-- The standard settings with a dictionary. -/
def Profile.standard (knows : Dictionary) : Profile := ⟨Settings.standard, knows⟩

theorem Settings.isActive_standard (c : Check) : standard.isActive c = .ok true := by
  cases c <;> rfl

theorem whenActive_standard {α : Type} (c : Check) (body : Except Fault (Option α)) :
    whenActive Settings.standard c body = body := by
  unfold whenActive
  rw [Settings.isActive_standard]
  rfl

namespace Check

open Settings (standard)

theorem succeeds_limit (limit n : Int) (c : Complaint) :
    Succeeds (do if ← Json.less (.int limit) (.int n) then return some c else return none) := by
  rw [Json.less_int]
  exact ⟨_, (apply_ite Except.ok _ _ _).symm⟩

theorem succeeds_longLine (n : Nat) : Succeeds (findLongLine standard (.int n)) := by
  unfold findLongLine
  rw [whenActive_standard]
  exact succeeds_limit 80 n _

theorem succeeds_emptyLines (n : Nat) : Succeeds (findEmptyLines standard (.int n)) := by
  unfold findEmptyLines
  rw [whenActive_standard]
  exact succeeds_limit 1 n _

theorem succeeds_trailingBlank (line : List Char) :
    Succeeds (findTrailingBlank standard line) := by
  unfold findTrailingBlank
  rw [whenActive_standard]
  split <;> exact ⟨_, rfl⟩

theorem succeeds_tracing : Succeeds (findTracing standard) := ⟨_, rfl⟩

theorem succeeds_missingComma : Succeeds (findMissingComma standard) := ⟨_, rfl⟩

theorem succeeds_trailingComma : Succeeds (findTrailingComma standard) := ⟨_, rfl⟩

theorem succeeds_operatorSpacing (text : List Char) (place : Int) (op : List Char) :
    Succeeds (findOperatorSpacing standard text place op) := by
  have hspaces : standard.param .operatorSpacing "spaces_around_operators" = .ok (.int 1) := rfl
  have hgap : operatorGap (.int 1) = .ok (.times 1 (some 1) .blank) := rfl
  unfold findOperatorSpacing
  rw [whenActive_standard, hspaces]
  simp only [bind, Except.bind, Json.number, Json.asInt?, hgap]
  split <;> exact ⟨_, rfl⟩

theorem succeeds_declarationSpacing (text : List Char) :
    Succeeds (findDeclarationSpacing standard text) := by
  unfold findDeclarationSpacing
  rw [Settings.isActive_standard]
  change Succeeds (if startsRemark text = true then _ else _)
  split
  · exact ⟨_, rfl⟩
  · change Succeeds (if (declarationPattern (.times 1 (some 1) .blank)).fits _ = true then _ else _)
    split <;> exact ⟨_, rfl⟩

/-- The format of a note of work to be done is well formed. -/
theorem succeeds_todoFormat : Succeeds (formatTest (.str Settings.todoFormat)) := by
  have hok : (Regex.ofText? {} Settings.todoFormat).isOk = true := by decide +kernel
  unfold formatTest
  cases h : Regex.ofText? {} Settings.todoFormat with
  | ok e => exact ⟨e.fits, by simp only [h]; rfl⟩
  | error f =>
    rw [h] at hok
    cases hok

theorem succeeds_comment (text : List Char) : Succeeds (findComment standard text) := by
  obtain ⟨test, htest⟩ := succeeds_todoFormat
  unfold findComment
  rw [whenActive_standard]
  change Succeeds (if (todoPattern .literal).fits text = true then
    (do if (← formatTest (.str Settings.todoFormat)) text then _ else _) else _)
  rw [htest]
  split
  · change Succeeds (if test text = true then _ else _)
    split <;> exact ⟨_, rfl⟩
  · exact ⟨_, rfl⟩

theorem succeeds_spelling (knows : Dictionary) (text : List Char) (b : Bool) :
    Succeeds (findSpelling standard knows text b) := ⟨_, rfl⟩

theorem succeeds_skippedLine (line : Int) : Succeeds (skippedLine standard line) := ⟨_, rfl⟩

theorem succeeds_skipsFile : Succeeds (skipsFile standard) := ⟨_, rfl⟩

theorem levelOf_le (level shift : Int) : levelOf level shift ≤ level := by
  unfold levelOf
  split <;> omega

/-- A pattern can be repeated unless the number of rounds is too large to be stated. -/
theorem exactly?_cases (p : Pattern) (same : List Char → Pattern) (n : Int) :
    Succeeds (p.exactly? same n) ∨
      p.exactly? same n = .error .tooManyRounds ∧ (Pattern.roundLimit : Int) ≤ n := by
  unfold Pattern.exactly?
  split
  · exact .inl ⟨_, rfl⟩
  · split
    · exact .inr ⟨rfl, by omega⟩
    · exact .inl ⟨_, rfl⟩

/-- A line can be checked unless it has to start with too many tabs. -/
theorem indentation_cases (level : Int) (line : List Char) (shift : Int) :
    Succeeds (findIndentation standard level line shift) ∨
      findIndentation standard level line shift = .error .tooManyRounds ∧
        (Pattern.roundLimit : Int) ≤ level := by
  have hrule : indentRule standard (.int (levelOf level shift)) =
      (indentTest .tab (.int (levelOf level shift))).map (·, ⟨.indentTabs, []⟩) := rfl
  unfold findIndentation findIndentAt
  rw [Settings.isActive_standard, hrule]
  cases line with
  | nil => exact .inl ⟨_, rfl⟩
  | cons c line =>
    unfold indentTest
    rcases exactly?_cases IndentUnit.tab.pattern .literal (levelOf level shift) with
      ⟨gap, hgap⟩ | ⟨hgap, hlimit⟩
    · left
      simp only [hgap, Except.map, bind, Except.bind]
      cases (gap.seq Pattern.solid).fits (c :: line) <;> exact ⟨_, rfl⟩
    · right
      simp only [hgap]
      exact ⟨rfl, Int.le_trans hlimit (levelOf_le level shift)⟩

end Check

/-- Under the standard settings only a line that has to start with too many tabs is in the way. -/
theorem Profile.answers_standard (knows : Dictionary) :
    (Profile.standard knows).Answers ((Pattern.roundLimit : Int) ≤ ·) where
  longLine := Check.succeeds_longLine
  emptyLines := Check.succeeds_emptyLines
  trailingBlank := Check.succeeds_trailingBlank
  tracing := Check.succeeds_tracing
  missingComma := Check.succeeds_missingComma
  trailingComma := Check.succeeds_trailingComma
  operatorSpacing := Check.succeeds_operatorSpacing
  declarationSpacing := Check.succeeds_declarationSpacing
  comment := Check.succeeds_comment
  spelling := Check.succeeds_spelling knows
  indentation := Check.indentation_cases
  steep_mono hle hlimit := Int.le_trans hlimit hle

namespace Reading

open Lint Check

/-- Every command can be heeded. -/
theorem isHeeded_standard (knows : Dictionary) (x : Lexeme) : x.IsHeeded (.standard knows) := by
  intro command hrole
  exact Total.passMissing (total_inspect (Profile.answers_standard knows) x.text
    (fun _ n => succeeds_skippedLine n) fun _ => succeeds_skipsFile)

theorem halts_read (knows : Dictionary) (text : List Char) :
    Halts (Text.falters text) (Pattern.roundLimit ≤ text.count '\n')
      ((read (.standard knows) text).run fresh) :=
  (halts_of_answers (Profile.answers_standard knows) fun x _ => isHeeded_standard knows x).mono
    Int.ofNat_le.1

/-- **Under the standard settings** a reading returns, with warnings whose messages are full, unless
a lexeme looks back at a token where there is none; then it fails for want of an index. Only a text
with more than four thousand million lines can fail for another reason. Without directives a lexeme
looks back at nothing exactly if the first token is a bracket that closes. -/
theorem read_standard_outcome (knows : Dictionary) (text : List Char) :
    ((∃ r, (read (.standard knows) text).run fresh = .ok () r ∧ Text.falters text = false ∧
        ∀ w ∈ r.warnings, w.complaint.IsFull) ∨
      (∃ r, (read (.standard knows) text).run fresh = .error .badIndex r ∧
        Text.falters text = true) ∨
      ∃ r, (read (.standard knows) text).run fresh = .error .tooManyRounds r ∧
        Pattern.roundLimit ≤ text.count '\n') ∧
    ((∀ x ∈ (scan text).1, x.kind ≠ .directive) →
      Text.falters text = startsClosed (scan text).1) := by
  constructor
  · rcases halts_read knows text with ⟨⟨⟩, r, h, hfalters⟩ | h | h
    · exact .inl ⟨r, h, hfalters, full_read h⟩
    · exact .inr (.inl h)
    · exact .inr (.inr h)
  · exact Outline.faltersIn_of_isBlank ⟨rfl, rfl, rfl⟩

/-- A bracket that closes, and nothing else, cannot be read. -/
theorem read_closingBracket :
    ∃ r, (read (.standard fun _ => true) [']']).run fresh = .error .badIndex r := by
  have hfalters : Text.falters [']'] = true := by decide +kernel
  rcases halts_read (fun _ => true) [']'] with ⟨⟨⟩, r, -, h⟩ | ⟨r, h, -⟩ | ⟨r, -, h⟩
  · cases hfalters.symm.trans h
  · exact ⟨r, h⟩
  · cases h

end Reading

end BrightLint
