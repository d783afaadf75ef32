import BrightLint.Proofs.BlockLevels

/-!
Lines that are too long, and lines that end in a space. Either check looks at one line after the
other, and it does not look at the last line as it looks at the others: the line feed counts as a
character of the line that it ends, and after a line feed at the end of a text there is nothing on
the last line, so that the line before it is looked at once more.

* `Text.lineAt`, `Text.isLong`, `Text.isLongEnded`: the lines of a text, and when they are too long,
  without and with the line feed that ends them
* `Ledger.Reports`, `Ledger.Reports.line`: what holds between the lines, and what a line does to it
* `Reading.warnings_lastLine`: the warnings about a text are those about its lines, and then those
  at its end
* `Reading.read_longLines`: the warnings about long lines
* `Reading.read_trailingBlanks`: the warnings about lines that end in a space
-/

namespace BrightLint

/-! ### Lines -/

namespace Text

/-- Line `i`, counted from one. -/
def lineAt (ls : List (List Char)) (i : Nat) : List Char := ls.getD (i - 1) []

/-- Whether line `i` has more than `m` characters. -/
def isLong (m : Nat) (ls : List (List Char)) (i : Nat) : Bool := decide (m < (lineAt ls i).length)

/-- Whether line `i` has more than `m` characters with the line feed that ends it. -/
def isLongEnded (m : Nat) (ls : List (List Char)) (i : Nat) : Bool :=
  decide (m < (lineAt ls i).length + if i < ls.length then 1 else 0)

/-- Whether line `i` ends in a space. -/
def endsInSpace (ls : List (List Char)) (i : Nat) : Bool := (lineAt ls i).getLast? == some ' '

variable {ls done rest : List (List Char)} {l last : List Char}

theorem lineAt_of_split (h : ls = done ++ l :: rest) : lineAt ls (1 + done.length) = l := by
  rw [lineAt, h, Nat.add_sub_cancel_left, List.getD_eq_getElem?_getD,
    List.getElem?_append_right (Nat.le_refl _), Nat.sub_self]
  rfl

/-- The line feed makes a difference only to a line that is as long as it may be. -/
theorem isLongEnded_eq_iff (m : Nat) (hls : ls = done ++ [last]) :
    (∀ i, 1 ≤ i → i ≤ ls.length → isLongEnded m ls i = isLong m ls i) ↔
      ∀ l ∈ done, l.length ≠ m := by
  have hlength : ls.length = done.length + 1 := by
    rw [hls, List.length_append]
    rfl
  constructor
  · intro h l hl hm
    obtain ⟨before, after, rfl⟩ := List.append_of_mem hl
    have hsplit : ls = before ++ l :: (after ++ [last]) := by
      rw [hls]
      simp
    have hline : lineAt ls (1 + before.length) = l := lineAt_of_split hsplit
    have hmore : 1 + before.length < ls.length := by
      rw [hlength, List.length_append, List.length_cons]
      omega
    have hsame := h (1 + before.length) (Nat.le_add_right _ _) (Nat.le_of_lt hmore)
    rw [isLongEnded, isLong, hline, if_pos hmore, decide_eq_decide] at hsame
    omega
  · intro h i hone hle
    rw [isLongEnded, isLong, decide_eq_decide]
    by_cases hmore : i < ls.length
    · have hi : i - 1 < done.length := by omega
      have hline : lineAt ls i = done.get ⟨i - 1, hi⟩ := by
        rw [lineAt, hls, List.getD_eq_getElem?_getD, List.getElem?_append_left hi,
          List.getElem?_eq_getElem hi]
        rfl
      have hne := h _ (List.get_mem done ⟨i - 1, hi⟩)
      rw [hline, if_pos hmore]
      omega
    · rw [if_neg hmore, Nat.add_zero]

theorem suffix_spaceFeed_iff (s : List Char) (c : Char) :
    [' ', '\n'] <:+ s ++ [c] ↔ s.getLast? = some ' ' ∧ '\n' = c := by
  have happend : [' '] ++ ['\n'] <:+ s ++ [c] ↔ [' '] <:+ s ∧ ['\n'] = [c] :=
    List.suffix_append_inj_of_length_eq rfl
  rw [List.singleton_suffix_iff_getLast?_eq_some, List.singleton_inj] at happend
  exact happend

/-- There is nothing on the line after a line feed at the end. -/
theorem eq_nil_of_spaceFeed (hlast : '\n' ∉ last) (h : [' ', '\n'] <:+ ended done ++ last) :
    last = [] := by
  rcases List.eq_nil_or_concat last with rfl | ⟨s, c, rfl⟩
  · rfl
  · rw [List.concat_eq_append, ← List.append_assoc, suffix_spaceFeed_iff] at h
    rw [h.2] at hlast
    simp at hlast

theorem getLast?_openLine (s : List Char) :
    (openLine s).getLast? = s.getLast?.filter (· != '\n') := by
  rw [openLine, List.getLast?_reverse, List.head?_takeWhile, List.head?_reverse]

end Text

/-- **The line that is looked at once more.** At the end of a text that ends with a line feed there
is nothing on the last line, and the line before it is looked at in its place. So a space is found
at the end of the last line, or before the line feed. -/
theorem Place.getLast?_lastLine {text last : List Char} {done : List (List Char)}
    (htext : text = ended done ++ last) (hends : ∀ c ∈ text, Text.isLineEnd c = true → c = '\n')
    (hlast : '\n' ∉ last) :
    (onLine text done last).lastLine.getLast? = some ' ' ↔
      last.getLast? = some ' ' ∨ [' ', '\n'] <:+ text := by
  have hopen : last = Text.openLine text := by rw [htext, openLine_ended done hlast]
  have hposition : (onLine text done last).position = text.length := by
    rw [htext, List.length_append]
    rfl
  rw [lastLine_of_append (s := text) (t := []) (List.append_nil text).symm hposition, hopen]
  rcases List.eq_nil_or_concat text with rfl | ⟨s, c, rfl⟩
  · simp [Text.lines, Text.linesFrom, Text.openLine]
  rw [List.concat_eq_append] at hends ⊢
  rw [Text.suffix_spaceFeed_iff]
  by_cases hc : '\n' = c
  · subst hc
    have hread : ∀ c ∈ s, Text.isLineEnd c = true → c = '\n' :=
      fun c hc => hends c (List.mem_append_left _ hc)
    rw [Text.getLastD_lines_feed hread, Text.openLine_lineFeed, Text.getLast?_openLine]
    simp [Option.filter_eq_some_iff]
  · have hne : Text.openLine (s ++ [c]) ≠ [] := by
      rw [Text.openLine_append (by simpa using hc)]
      simp
    rw [Text.getLastD_lines_open hends hne]
    simp [hc]

/-! ### Reports -/

namespace Ledger

variable {p : Profile} {c : Complaint} {f : Nat → Bool} {l l₁ : Ledger} {done : List (List Char)}

/-- What holds between the lines: those with the property have been complained of. -/
structure Reports (c : Complaint) (f : Nat → Bool) (done : List (List Char)) (l : Ledger) :
    Prop where
  isOpen : l.IsOpen
  warnings : l.warnings.reverse = lineWarnings c f done.length

/-- The checks at the end of a line, if the indentation is not checked. -/
theorem checkLine_reports (hindent : p.settings.isActive .indentation = .ok false)
    (hl : l.IsOpen) (here : Place) :
    l.checkLine p here = l.countLine.warn (lineComplaints p here l.countLine.emptyLines) here := by
  rw [checkLine_of_checked (hl.isChecked _), indent_inactive hindent]

/-- **A line** and the line feed that ends it. -/
theorem Reports.line {line : List Char} {xs : List Lexeme} (h : l.Reports c f done)
    (hindent : p.settings.isActive .indentation = .ok false) (hcross : l.Crosses xs l₁)
    {here : Place} (hhere : here.line = 1 + done.length)
    (htells : ∀ n, lineComplaints p here n = if f (1 + done.length) then [c] else []) :
    (l₁.checkLine p here).Reports c f (done ++ [line]) := by
  have hold : l₁.countLine.warnings.reverse = lineWarnings c f done.length := by
    rw [countLine_eq, hcross.warnings, h.warnings]
  rw [checkLine_reports hindent hcross.isOpen, htells]
  refine ⟨hcross.isOpen.countLine.warn _ _, ?_⟩
  rw [lineWarnings_warn hold hhere, List.length_append]
  rfl

end Ledger

namespace Reading

variable {p : Profile} {text : List Char} {r : Reading}

/-- **The warnings about a text** are those about the lines that a line feed ends, and then those
about the line that ends with the text. -/
theorem warnings_lastLine (hp : p.settings.OnlyLines)
    (hindent : p.settings.isActive .indentation = .ok false) {c : Complaint} {f : Nat → Bool}
    (htells : ∀ done l rest n, text = ended done ++ (l ++ '\n' :: rest) →
      text.splitOn '\n' = done ++ l :: rest.splitOn '\n' → '\n' ∉ l →
      Ledger.lineComplaints p ((Place.onLine text done l).beyond .lineFeed) n =
        if f (1 + done.length) then [c] else [])
    (h : (read p text).run fresh = .ok () r) (hproblems : r.problems = []) :
    ∃ done last n, text = ended done ++ last ∧ text.splitOn '\n' = done ++ [last] ∧ '\n' ∉ last ∧
      r.warnings.reverse = lineWarnings c f done.length ++
        (Ledger.lineComplaints p (.onLine text done last) n).reverse.map
          (⟨·, 1 + done.length⟩) := by
  have hkept : KeptByLines p text fun done s => s.ledger.Reports c f done := by
    intro done l rest s s₁ s₂ htext hsplit hreports hreads hfeed
    rw [ledger_lineFeed hp hreads.stop hfeed]
    exact hreports.line hindent (hreads.crosses hp hreports.isOpen) rfl
      fun n => htells done l rest n htext hsplit hreads.inline
  have hstart : (fresh.start text).ledger.Reports c f [] := ⟨⟨rfl, fun n hn => by cases hn⟩, rfl⟩
  obtain ⟨done, last, s, s₁, htext, hsplit, hreports, hreads, hfinish⟩ :=
    hkept.read hstart h ((problems_eq_nil_iff h).1 hproblems)
  have hcross := hreads.crosses hp hreports.isOpen
  have hledger := ledger_finish hfinish
  rw [Ledger.checkLine_reports hindent hcross.isOpen, hreads.stop] at hledger
  refine ⟨done, last, s₁.ledger.countLine.emptyLines, htext, hsplit, hreads.inline, ?_⟩
  rw [show r.warnings = r.ledger.warnings from rfl, hledger, Ledger.warn, List.reverse_append,
    ← List.map_reverse, Ledger.countLine_eq, hcross.warnings, hreports.warnings]
  rfl

/-! ### Long lines -/

/-- What is said about a line that is checked for its length alone. -/
theorem lineComplaints_lineLength (hp : p.settings.Only .lineLength) {m : Nat}
    (hm : p.settings.param .lineLength "max_line_length" = .ok (.int m)) (here : Place) (n : Nat) :
    Ledger.lineComplaints p here n =
      if m < here.lineLength then [⟨.lineLength, [.int m]⟩] else [] := by
  unfold Ledger.lineComplaints Check.findTrailingBlank Check.findEmptyLines Check.findLongLine
  rw [complaintsOf_inactive (hp.others .trailingBlank (by decide)),
    complaintsOf_inactive (hp.others .emptyLines (by decide)), whenActive_of_active hp.active, hm]
  simp only [bind, Except.bind, Json.less_int, decide_eq_true_eq, Int.ofNat_lt, List.nil_append]
  split <;> rfl

/-- **Long lines.** If only the length of the lines is checked, and `m` characters are allowed, then
the warnings about a text that can be cut up to its end are one for each line that has more than `m`
characters with the line feed that ends it, in the order of the lines. These are the lines with more
than `m` characters if and only if no line that a line feed ends has just `m` of them. -/
theorem read_longLines (p : Profile) (hp : p.settings.Only .lineLength) (m : Nat)
    (hm : p.settings.param .lineLength "max_line_length" = .ok (.int m)) (text : List Char)
    (r : Reading) (h : (read p text).run fresh = .ok () r) (hproblems : r.problems = []) :
    r.warnings.reverse = lineWarnings ⟨.lineLength, [.int m]⟩
      (Text.isLongEnded m (text.splitOn '\n')) (text.splitOn '\n').length ∧
    (r.warnings.reverse = lineWarnings ⟨.lineLength, [.int m]⟩
      (Text.isLong m (text.splitOn '\n')) (text.splitOn '\n').length ↔
        ∀ l ∈ (text.splitOn '\n').dropLast, l.length ≠ m) := by
  have hcounts := lineComplaints_lineLength hp hm
  obtain ⟨done, last, n, -, hsplit, -, hwarnings⟩ := warnings_lastLine
    (f := Text.isLongEnded m (text.splitOn '\n')) (hp.onlyLines rfl)
    (hp.others .indentation (by decide)) (fun done l rest n _ hsplit _ => by
      have hmore : 1 + done.length < (text.splitOn '\n').length := by
        have hrest := List.length_pos_iff.2 (List.splitOn_ne_nil '\n' rest)
        rw [hsplit, List.length_append, List.length_cons]
        omega
      rw [hcounts, Text.isLongEnded, Text.lineAt_of_split hsplit, if_pos hmore]
      simp only [decide_eq_true_eq]
      rfl) h hproblems
  have hlength : (text.splitOn '\n').length = done.length + 1 := by
    rw [hsplit, List.length_append]
    rfl
  have hlast : Text.isLongEnded m (text.splitOn '\n') (1 + done.length) =
      decide (m < last.length) := by
    rw [Text.isLongEnded, Text.lineAt_of_split hsplit, if_neg (by omega), Nat.add_zero]
  have hall : r.warnings.reverse = lineWarnings ⟨.lineLength, [.int m]⟩
      (Text.isLongEnded m (text.splitOn '\n')) (text.splitOn '\n').length := by
    rw [hwarnings, hlength, lineWarnings_succ, hlast, hcounts]
    simp only [decide_eq_true_eq]
    refine congrArg _ ?_
    rw [show (Place.onLine text done last).lineLength = last.length from rfl]
    split <;> rfl
  refine ⟨hall, ?_⟩
  rw [hall, lineWarnings_inj, Text.isLongEnded_eq_iff m hsplit, hsplit, List.dropLast_concat]

/-- Settings under which five characters on a line are allowed, and nothing else is checked. -/
def fiveCharacters : Settings := .single .lineLength (.obj [("max_line_length", .int 5)])

/-- Lines of five, of six, of four and again of five characters. -/
def unevenLines : List Char := "x = 1\nx = 12\nx =1\nx = 2".toList

/-- The first line is as long as the last one, and only the first is complained of. -/
theorem read_longLines_unevenLines :
    ∃ r, (read ⟨fiveCharacters, fun _ => true⟩ unevenLines).run fresh = .ok () r ∧
      r.problems = [] ∧ r.warnings.reverse =
        [⟨⟨.lineLength, [.int 5]⟩, 1⟩, ⟨⟨.lineLength, [.int 5]⟩, 2⟩] := by
  have hfacts : (returnsWith ⟨fiveCharacters, fun _ => true⟩ unevenLines (·.problems == []) &&
      (List.range' 1 (unevenLines.splitOn '\n').length).filter
        (Text.isLongEnded 5 (unevenLines.splitOn '\n')) == [1, 2]) = true := by
    decide +kernel
  simp only [Bool.and_eq_true, beq_iff_eq] at hfacts
  obtain ⟨hreturns, hlong⟩ := hfacts
  obtain ⟨r, h, hr⟩ := exists_of_returnsWith hreturns
  have hwarnings := (read_longLines _ (Settings.only_single _ _) 5 rfl _ r h (beq_iff_eq.1 hr)).1
  rw [lineWarnings, hlong] at hwarnings
  exact ⟨r, h, beq_iff_eq.1 hr, hwarnings⟩

/-- Two lines of five characters. -/
def evenLines : List Char := "x = 1\ny = 2".toList

/-- A line that is as long as it may be is complained of if a line feed ends it: there is no line
that is too long, and there is a warning. -/
theorem read_evenLines :
    ∃ r, (read ⟨fiveCharacters, fun _ => true⟩ evenLines).run fresh = .ok () r ∧
      r.problems = [] ∧ r.warnings.map Warning.line = [1] ∧
      lineWarnings ⟨.lineLength, [.int 5]⟩ (Text.isLong 5 (evenLines.splitOn '\n'))
        (evenLines.splitOn '\n').length = [] := by
  have hfacts : (returnsWith ⟨fiveCharacters, fun _ => true⟩ evenLines
      (fun r => r.problems == [] && r.warnings.map Warning.line == [1]) &&
      (List.range' 1 (evenLines.splitOn '\n').length).filter
        (Text.isLong 5 (evenLines.splitOn '\n')) == []) = true := by
    decide +kernel
  simp only [Bool.and_eq_true, beq_iff_eq] at hfacts
  obtain ⟨r, h, hr⟩ := exists_of_returnsWith hfacts.1
  simp only [Bool.and_eq_true, beq_iff_eq] at hr
  exact ⟨r, h, hr.1, hr.2, by rw [lineWarnings, hfacts.2]; rfl⟩

/-! ### Lines that end in a space -/

/-- What is said about a line that is checked for a space at its end alone. -/
theorem lineComplaints_trailingBlank (hp : p.settings.Only .trailingBlank) (here : Place)
    (n : Nat) :
    Ledger.lineComplaints p here n =
      if here.lastLine.getLast? = some ' ' then [⟨.trailingBlank, []⟩] else [] := by
  unfold Ledger.lineComplaints Check.findTrailingBlank Check.findEmptyLines Check.findLongLine
  rw [complaintsOf_inactive (hp.others .lineLength (by decide)),
    complaintsOf_inactive (hp.others .emptyLines (by decide)), whenActive_of_active hp.active,
    List.append_nil, List.append_nil]
  split <;> rfl

/-- **Lines that end in a space.** If only white space at the ends of the lines is checked, then the
warnings about a text that can be cut up to its end, and in which nothing but a line feed ends a
line, are one for each line that ends in a space, in the order of the lines, and one more on the
last line if the text ends in a space and a line feed, though there is nothing on that line. -/
theorem read_trailingBlanks (p : Profile) (hp : p.settings.Only .trailingBlank) (text : List Char)
    (hends : ∀ c ∈ text, Text.isLineEnd c = true → c = '\n') (r : Reading)
    (h : (read p text).run fresh = .ok () r) (hproblems : r.problems = []) :
    r.warnings.reverse =
      lineWarnings ⟨.trailingBlank, []⟩ (Text.endsInSpace (text.splitOn '\n'))
        (text.splitOn '\n').length ++
      (if [' ', '\n'] <:+ text then [⟨⟨.trailingBlank, []⟩, (text.splitOn '\n').length⟩] else []) ∧
    (r.warnings.reverse = lineWarnings ⟨.trailingBlank, []⟩ (Text.endsInSpace (text.splitOn '\n'))
      (text.splitOn '\n').length ↔ ¬ [' ', '\n'] <:+ text) := by
  have hcounts := lineComplaints_trailingBlank hp
  obtain ⟨done, last, n, htext, hsplit, hlast, hwarnings⟩ := warnings_lastLine
    (c := ⟨.trailingBlank, []⟩) (f := Text.endsInSpace (text.splitOn '\n')) (hp.onlyLines rfl)
    (hp.others .indentation (by decide)) (fun done l rest n htext hsplit hl => by
      have hinline := Text.inline_of_subset hends (l := l) (by rw [htext]; simp) hl
      rw [hcounts, Place.lastLine_lineFeed htext, Text.checkedLine_of_inline hinline,
        Text.endsInSpace, Text.lineAt_of_split hsplit]
      simp only [beq_iff_eq]) h hproblems
  have hlength : (text.splitOn '\n').length = done.length + 1 := by
    rw [hsplit, List.length_append]
    rfl
  have hall : r.warnings.reverse =
      lineWarnings ⟨.trailingBlank, []⟩ (Text.endsInSpace (text.splitOn '\n'))
        (text.splitOn '\n').length ++
      (if [' ', '\n'] <:+ text then [⟨⟨.trailingBlank, []⟩, (text.splitOn '\n').length⟩]
        else []) := by
    rw [hwarnings, hcounts, hlength, lineWarnings_succ, Text.endsInSpace,
      Text.lineAt_of_split hsplit, Nat.add_comm done.length]
    simp only [Place.getLast?_lastLine htext hends hlast, beq_iff_eq]
    -- the two places where a space is found exclude each other
    by_cases hfeed : [' ', '\n'] <:+ text
    · have hnone : last = [] := Text.eq_nil_of_spaceFeed hlast (htext ▸ hfeed)
      simp [hfeed, hnone]
    · by_cases hspace : last.getLast? = some ' ' <;> simp [hfeed, hspace]
  refine ⟨hall, ?_⟩
  rw [hall]
  by_cases hfeed : [' ', '\n'] <:+ text
  · rw [if_pos hfeed]
    exact iff_of_false (by simp) (not_not_intro hfeed)
  · rw [if_neg hfeed, List.append_nil]
    exact iff_of_true rfl hfeed

/-- Settings under which white space at the ends of lines is checked, and nothing else. -/
def noTrailingBlanks : Settings := .single .trailingBlank (.obj [])

/-- A text with a space at the end of its first and its last words, and one on a line of its own. -/
def spacedText : List Char := "x = 1 \n\n \ny = 2 \n".toList

theorem read_trailingBlanks_spacedText :
    ∃ r, (read ⟨noTrailingBlanks, fun _ => true⟩ spacedText).run fresh = .ok () r ∧
      r.problems = [] ∧ r.warnings.reverse =
        [⟨⟨.trailingBlank, []⟩, 1⟩, ⟨⟨.trailingBlank, []⟩, 3⟩, ⟨⟨.trailingBlank, []⟩, 4⟩,
          ⟨⟨.trailingBlank, []⟩, 5⟩] := by
  have hfacts : (returnsWith ⟨noTrailingBlanks, fun _ => true⟩ spacedText (·.problems == []) &&
      (spacedText.all (fun c => !Text.isLineEnd c || c == '\n') &&
        (List.range' 1 (spacedText.splitOn '\n').length).filter
          (Text.endsInSpace (spacedText.splitOn '\n')) == [1, 3, 4])) = true := by
    decide +kernel
  simp only [Bool.and_eq_true, beq_iff_eq] at hfacts
  obtain ⟨hreturns, hends, hspaces⟩ := hfacts
  obtain ⟨r, h, hr⟩ := exists_of_returnsWith hreturns
  have hwarnings := (read_trailingBlanks _ (Settings.only_single _ _) spacedText
    (fun c hc hend => by simpa [hend] using List.all_eq_true.1 hends c hc) r h
    (beq_iff_eq.1 hr)).1
  rw [lineWarnings, hspaces, if_pos (by decide)] at hwarnings
  exact ⟨r, h, beq_iff_eq.1 hr, hwarnings⟩

/-- A line that ends in a space, with a line feed. -/
def spacedLine : List Char := "x \n".toList

/-- The empty line after a line that ends in a space is complained of as well: there is one line
that ends in a space, and there are two warnings. -/
theorem read_spacedLine :
    ∃ r, (read ⟨noTrailingBlanks, fun _ => true⟩ spacedLine).run fresh = .ok () r ∧
      r.problems = [] ∧ r.warnings.reverse.map Warning.line = [1, 2] ∧
      lineWarnings ⟨.trailingBlank, []⟩ (Text.endsInSpace (spacedLine.splitOn '\n'))
        (spacedLine.splitOn '\n').length = [⟨⟨.trailingBlank, []⟩, 1⟩] := by
  have hfacts : (returnsWith ⟨noTrailingBlanks, fun _ => true⟩ spacedLine
      (fun r => r.problems == [] && r.warnings.reverse.map Warning.line == [1, 2]) &&
      (List.range' 1 (spacedLine.splitOn '\n').length).filter
        (Text.endsInSpace (spacedLine.splitOn '\n')) == [1]) = true := by
    decide +kernel
  simp only [Bool.and_eq_true, beq_iff_eq] at hfacts
  obtain ⟨r, h, hr⟩ := exists_of_returnsWith hfacts.1
  simp only [Bool.and_eq_true, beq_iff_eq] at hr
  exact ⟨r, h, hr.1, hr.2, by rw [lineWarnings, hfacts.2]; rfl⟩

end Reading

end BrightLint
