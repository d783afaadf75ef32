import BrightLint.Proofs.LineEndChecks

/-!
Runs of blank lines. A line is blank if there is nothing on it but white space and directives. If
the number of empty lines in a row is the only thing that is checked, a reading counts the blank
lines up to the line that it is on, and complains of each line that is one too many. The last line
counts like any other, although no line feed ends it.

* `Text.blankRun`: how many blank lines there are at the end
* `Text.endsRun`: whether a line is blank, with enough blank lines before it
* `Ledger.Counts`, `Ledger.Counts.line`: what holds between the lines, and what a line does to it
* `Reading.read_emptyLines`: the warnings about empty lines
-/

namespace BrightLint

namespace Text

/-- How many blank lines there are at the end. -/
def blankRun (ls : List (List Char)) : Nat := (ls.reverse.takeWhile isBlankLine).length

/-- Whether line `i`, counted from one, is blank and so are the `k` lines before it. -/
def endsRun (k : Nat) (ls : List (List Char)) (i : Nat) : Bool :=
  decide (k < i) && ((ls.take i).drop (i - (k + 1))).all isBlankLine

theorem blankRun_concat (ls : List (List Char)) (l : List Char) :
    blankRun (ls ++ [l]) = if isBlankLine l then blankRun ls + 1 else 0 := by
  unfold blankRun
  rw [List.reverse_concat, List.takeWhile_cons]
  split <;> simp

/-- More than `k` blank lines at the end are `k + 1` blank lines at the end. -/
theorem lt_blankRun_iff (k : Nat) (ls : List (List Char)) :
    k < blankRun ls ↔ k < ls.length ∧ (ls.drop (ls.length - (k + 1))).all isBlankLine = true := by
  -- the same from the front; the run at the end is that of the lines backwards
  have hrun : ∀ (n : Nat) (xs : List (List Char)), n < (xs.takeWhile isBlankLine).length ↔
      n < xs.length ∧ (xs.take (n + 1)).all isBlankLine = true := by
    intro n xs
    induction xs generalizing n with
    | nil => simp
    | cons x xs ih =>
      cases hx : isBlankLine x with
      | false => simp [hx]
      | true =>
        cases n with
        | zero => simp [hx]
        | succ n => simpa [hx] using ih n
  rw [blankRun, hrun, List.length_reverse, List.take_reverse, List.all_reverse]

/-- The lines after a line do not matter. -/
theorem endsRun_of_split {ls done rest : List (List Char)} {l : List Char}
    (h : ls = done ++ l :: rest) (k : Nat) :
    endsRun k ls (1 + done.length) = decide (k < blankRun (done ++ [l])) := by
  have htake : ls.take (1 + done.length) = done ++ [l] := by
    rw [h, Nat.add_comm, List.take_length_add_append]
    rfl
  have hlength : 1 + done.length = (done ++ [l]).length := by
    rw [List.length_append, Nat.add_comm]
    rfl
  unfold endsRun
  rw [htake, hlength, Bool.eq_iff_iff]
  simp only [Bool.and_eq_true, decide_eq_true_eq]
  exact (lt_blankRun_iff k (done ++ [l])).symm

end Text

namespace Ledger

variable {p : Profile} {k : Nat} {l l₁ : Ledger} {ls done rest : List (List Char)}

/-- The checks at the end of a line, if only the number of empty lines is checked. -/
theorem checkLine_emptyLines (hp : p.settings.Only .emptyLines)
    (hk : p.settings.param .emptyLines "consecutive_empty_lines" = .ok (.int k)) (hl : l.IsOpen)
    (here : Place) :
    l.checkLine p here = l.countLine.warn
      (if k < l.countLine.emptyLines then [⟨.emptyLines, [.int k]⟩] else []) here := by
  have hempty : ∀ n : Nat, complaintsOf (Check.findEmptyLines p.settings (.int n)) =
      if k < n then [⟨.emptyLines, [.int k]⟩] else [] := by
    intro n
    unfold Check.findEmptyLines
    rw [whenActive_of_active hp.active, hk]
    simp only [bind, Except.bind, Json.less_int, decide_eq_true_eq, Int.ofNat_lt]
    split <;> rfl
  rw [checkLine_of_checked (hl.isChecked _), indent_inactive (hp.others .indentation (by decide)),
    lineComplaints_eq (hp.others _ (by decide)) (hp.others _ (by decide)), hempty]

/-- What holds between the lines: the blank lines have been counted, and the lines of them that are
too many complained of. -/
structure Counts (k : Nat) (ls done : List (List Char)) (l : Ledger) : Prop where
  isOpen : l.IsOpen
  isEmptyLine : l.isEmptyLine = true
  emptyLines : l.emptyLines = Text.blankRun done
  warnings : l.warnings.reverse =
    lineWarnings ⟨.emptyLines, [.int k]⟩ (Text.endsRun k ls) done.length

/-- **A line** and its end, be it a line feed or the end of the text. -/
theorem Counts.line {line : List Char} (h : l.Counts k ls done)
    (hp : p.settings.Only .emptyLines)
    (hk : p.settings.param .emptyLines "consecutive_empty_lines" = .ok (.int k))
    (hls : ls = done ++ line :: rest) (hcross : l.Crosses (scan line).1 l₁) {here : Place}
    (hhere : here.line = 1 + done.length) : (l₁.checkLine p here).Counts k ls (done ++ [line]) := by
  have hflag : l₁.isEmptyLine = Text.isBlankLine line := by
    rw [hcross.isEmptyLine, h.isEmptyLine, Bool.true_and]
    rfl
  have hcount : l₁.countLine.emptyLines = Text.blankRun (done ++ [line]) := by
    rw [countLine_eq, Text.blankRun_concat, hflag, hcross.emptyLines, h.emptyLines]
  have hold : l₁.countLine.warnings.reverse =
      lineWarnings ⟨.emptyLines, [.int k]⟩ (Text.endsRun k ls) done.length := by
    rw [countLine_eq, hcross.warnings, h.warnings]
  have hnew := lineWarnings_warn hold hhere
  rw [Text.endsRun_of_split hls, ← hcount] at hnew
  simp only [decide_eq_true_eq] at hnew
  rw [checkLine_emptyLines hp hk hcross.isOpen]
  refine ⟨hcross.isOpen.countLine.warn _ _, ?_, hcount, ?_⟩
  · rw [countLine_eq]
    rfl
  · rw [List.length_append]
    exact hnew

end Ledger

namespace Reading

/-- **Runs of blank lines.** If only the number of empty lines in a row is checked, and `k` of them
are allowed, then the warnings about a text that can be cut up to its end are one for each line that
is blank with `k` blank lines before it, in the order of the lines. -/
theorem read_emptyLines (p : Profile) (hp : p.settings.Only .emptyLines) (k : Nat)
    (hk : p.settings.param .emptyLines "consecutive_empty_lines" = .ok (.int k))
    (text : List Char) (r : Reading) (h : (read p text).run fresh = .ok () r)
    (hproblems : r.problems = []) :
    r.warnings.reverse = lineWarnings ⟨.emptyLines, [.int k]⟩ (Text.endsRun k (text.splitOn '\n'))
      (text.splitOn '\n').length := by
  have hlines := hp.onlyLines rfl
  have hkept : KeptByLines p text fun done s => s.ledger.Counts k (text.splitOn '\n') done := by
    intro done l rest s s₁ s₂ _ hsplit hcounts hreads hfeed
    rw [ledger_lineFeed hlines hreads.stop hfeed]
    exact hcounts.line hp hk hsplit (hreads.crosses hlines hcounts.isOpen) rfl
  have hstart : (fresh.start text).ledger.Counts k (text.splitOn '\n') [] :=
    ⟨⟨rfl, fun n hn => by cases hn⟩, rfl, rfl, rfl⟩
  obtain ⟨done, last, s, s₁, -, hsplit, hcounts, hreads, hfinish⟩ :=
    hkept.read hstart h ((problems_eq_nil_iff h).1 hproblems)
  have hlast := hcounts.line hp hk hsplit (hreads.crosses hlines hcounts.isOpen)
    (congrArg Place.line hreads.stop)
  rw [← ledger_finish hfinish] at hlast
  have hwarnings := hlast.warnings
  rw [← hsplit] at hwarnings
  exact hwarnings

/-- Settings under which one empty line at a time is allowed, and nothing else is checked. -/
def oneEmptyLine : Settings :=
  .obj [("consecutive_empty_lines", .obj [("active", .bool true),
    ("params", .obj [("consecutive_empty_lines", .int 1)])])]

/-- A text that starts and ends with two blank lines and has two more between its words. -/
def sparseText : List Char := "\n\t'BSLint_none\nx = 1\n\n'BSLint_none\n  ' note\n\n".toList

/-- A line with a directive is blank, one with a comment is not. -/
theorem read_emptyLines_sparseText :
    ∃ r, (read ⟨oneEmptyLine, fun _ => true⟩ sparseText).run fresh = .ok () r ∧ r.problems = [] ∧
      r.warnings.reverse =
        [⟨⟨.emptyLines, [.int 1]⟩, 2⟩, ⟨⟨.emptyLines, [.int 1]⟩, 5⟩,
          ⟨⟨.emptyLines, [.int 1]⟩, 8⟩] := by
  have honly : oneEmptyLine.Only .emptyLines := by
    refine ⟨rfl, fun c hc => ?_⟩
    cases c with
    | emptyLines => exact absurd rfl hc
    | _ => rfl
  have hreturns :
      returnsWith ⟨oneEmptyLine, fun _ => true⟩ sparseText (·.problems == []) = true := by
    decide +kernel
  obtain ⟨r, h, hr⟩ := exists_of_returnsWith hreturns
  have hruns : (List.range' 1 (sparseText.splitOn '\n').length).filter
      (Text.endsRun 1 (sparseText.splitOn '\n')) = [2, 5, 8] := by
    decide +kernel
  have hwarnings := read_emptyLines _ honly 1 rfl _ r h (beq_iff_eq.1 hr)
  rw [lineWarnings, hruns] at hwarnings
  exact ⟨r, h, beq_iff_eq.1 hr, hwarnings⟩

end Reading

end BrightLint
