import BrightLint.Proofs.PatternGrowth
import BrightLint.Proofs.SkippedTraces

/-!
The level after each line. What the words of a line open and close is added up, together with two
for each `else`, and it is the sum that says how the line moves the level: by one up, by one down,
or not at all. So the level follows what the lines open and close only as long as each line opens as
many blocks as it closes, or one more or one less without an `else` on it. A line that opens two
blocks counts as an `else`, and one that opens three counts as nothing.

* `Lexeme.linesOf`, `Lexeme.rise`: the lines of lexemes, and what they open and close
* `Lexeme.lineStep`, `Lexeme.lineStep_eq_rise_iff`: how a line moves the level, and when that is
  what it opens and closes
* `Place.isOneLineIf_lastLine`: the line that is checked is no `if` with its body
* `Ledger.LevelsAt`: what holds after some lexemes
* `Reading.read_level`: the level after each line and at the end of a text
-/

namespace BrightLint

/-! ### Lines of lexemes -/

namespace Lexeme

/-- The lexemes of each line. -/
def linesOf (xs : List Lexeme) : List (List Lexeme) := xs.splitOnP (·.kind == .newLine)

/-- How many lexemes open, close and divide a block. -/
def opened (xs : List Lexeme) : Nat := xs.countP (·.shift == 1)
def closed (xs : List Lexeme) : Nat := xs.countP (·.shift == -1)
def divided (xs : List Lexeme) : Nat := xs.countP (·.shift == 2)

/-- How many more blocks lexemes open than they close. -/
def rise (xs : List Lexeme) : Int := opened xs - closed xs

/-- How a sum of shifts moves the level. -/
def stepOf (sum : Int) : Int := if sum = 1 then 1 else if sum = -1 then -1 else 0

/-- How a line moves the level. -/
def lineStep (line : List Lexeme) : Int := stepOf (rise line + 2 * divided line)

/-- What lines add up to. -/
def totalOver (f : List Lexeme → Int) : List (List Lexeme) → Int
  | [] => 0
  | line :: ls => f line + totalOver f ls

theorem totalOver_concat (f : List Lexeme → Int) (ls : List (List Lexeme)) (line : List Lexeme) :
    totalOver f (ls ++ [line]) = totalOver f ls + f line := by
  induction ls with
  | nil => exact Int.add_comm _ _
  | cons l ls ih => rw [List.cons_append, totalOver, totalOver, ih, Int.add_assoc]

theorem totalOver_congr {f g : List Lexeme → Int} {ls : List (List Lexeme)}
    (h : ∀ line ∈ ls, f line = g line) : totalOver f ls = totalOver g ls := by
  induction ls with
  | nil => rfl
  | cons l ls ih =>
    obtain ⟨hl, hls⟩ := List.forall_mem_cons.1 h
    rw [totalOver, totalOver, hl, ih hls]

/-- A line moves the level by what it opens and closes only if that is nothing, or a single block
and there is no `else` on it. -/
theorem lineStep_eq_rise_iff (line : List Lexeme) :
    lineStep line = rise line ↔
      rise line = 0 ∨ divided line = 0 ∧ (rise line = 1 ∨ rise line = -1) := by
  unfold lineStep stepOf
  split
  · omega
  · split <;> omega

theorem lexemeRules_shift : ∀ rule ∈ lexemeRules,
    rule.shift = 0 ∨ rule.shift = 1 ∨ rule.shift = -1 ∨ rule.shift = 2 := by
  decide +kernel

theorem IsCut.shift_cases {x : Lexeme} (h : x.IsCut) :
    x.shift = 0 ∨ x.shift = 1 ∨ x.shift = -1 ∨ x.shift = 2 := by
  obtain ⟨rule, hrule, s, hread⟩ := h.rule
  obtain ⟨⟨t, q⟩, -, rfl⟩ := Option.map_eq_some_iff.1 hread
  exact lexemeRules_shift rule hrule

theorem shiftOf_concat (xs : List Lexeme) (x : Lexeme) :
    shiftOf (xs ++ [x]) = shiftOf xs + x.shift := by
  induction xs with
  | nil => simp [shiftOf]
  | cons y xs ih => rw [List.cons_append, shiftOf, shiftOf, ih, Int.add_assoc]

/-- The shift of a line counts what it opens, closes and divides. -/
theorem shiftOf_eq {xs : List Lexeme} (hcut : ∀ x ∈ xs, x.IsCut) :
    shiftOf xs = rise xs + 2 * divided xs := by
  induction xs with
  | nil => rfl
  | cons x xs ih =>
    obtain ⟨hx, hxs⟩ := List.forall_mem_cons.1 hcut
    rw [shiftOf, ih hxs]
    unfold rise opened closed divided
    rw [List.countP_cons, List.countP_cons, List.countP_cons]
    rcases hx.shift_cases with h | h | h | h <;> simp [h] <;> omega

theorem rise_cons (x : Lexeme) (xs : List Lexeme) : rise (x :: xs) = rise [x] + rise xs := by
  unfold rise opened closed
  simp only [List.countP_cons, List.countP_nil]
  omega

/-- Line by line, or all at once. -/
theorem totalOver_rise {xs : List Lexeme} (hcut : ∀ x ∈ xs, x.IsCut) :
    totalOver rise (linesOf xs) = rise xs := by
  induction xs with
  | nil => rfl
  | cons x xs ih =>
    obtain ⟨⟨s, hs⟩, hxs⟩ := List.forall_mem_cons.1 hcut
    rw [rise_cons, ← ih hxs]
    unfold linesOf
    rw [List.splitOnP_cons_eq_if_modifyHead]
    rcases first?_lineFeed_or hs with rfl | ⟨hk, -⟩
    · rfl
    · rw [if_neg (by simpa using hk)]
      cases hlines : xs.splitOnP (·.kind == .newLine) with
      | nil => exact absurd hlines (List.splitOnP_ne_nil _ _)
      | cons line ls => rw [List.modifyHead_cons, totalOver, totalOver, rise_cons, Int.add_assoc]

/-- Lexemes of which `line` stand on the last line, after the lines `ls`. -/
structure OpensLine (ys : List Lexeme) (ls : List (List Lexeme)) (line : List Lexeme) : Prop where
  inline : ∀ x ∈ line, x.kind ≠ .newLine
  before : ls = [] ∧ ys = line ∨ ∃ us, ls = linesOf us ∧ ys = us ++ .lineFeed :: line

theorem linesOf_inline {line : List Lexeme} (h : ∀ x ∈ line, x.kind ≠ .newLine) :
    linesOf line = [line] :=
  List.splitOnP_eq_singleton fun x hx => by simpa using h x hx

namespace OpensLine

variable {ys line : List Lexeme} {ls : List (List Lexeme)} {x : Lexeme}

theorem linesOf_eq (h : OpensLine ys ls line) : linesOf ys = ls ++ [line] := by
  rcases h.before with ⟨rfl, rfl⟩ | ⟨us, rfl, rfl⟩
  · exact linesOf_inline h.inline
  · rw [← linesOf_inline h.inline]
    exact List.splitOnP_append_cons us line rfl

theorem lineFeed (h : OpensLine ys ls line) :
    OpensLine (ys ++ [.lineFeed]) (ls ++ [line]) [] :=
  ⟨by simp, .inr ⟨ys, h.linesOf_eq.symm, rfl⟩⟩

theorem concat (h : OpensLine ys ls line) (hx : x.kind ≠ .newLine) :
    OpensLine (ys ++ [x]) ls (line ++ [x]) := by
  refine ⟨?_, ?_⟩
  · intro y hy
    rcases List.mem_append.1 hy with hy | hy
    · exact h.inline y hy
    · rw [List.mem_singleton.1 hy]
      exact hx
  · rcases h.before with ⟨rfl, rfl⟩ | ⟨us, rfl, rfl⟩
    · exact .inl ⟨rfl, rfl⟩
    · exact .inr ⟨us, rfl, by simp⟩

theorem mem (h : OpensLine ys ls line) (hx : x ∈ line) : x ∈ ys := by
  rcases h.before with ⟨rfl, rfl⟩ | ⟨us, rfl, rfl⟩
  · exact hx
  · exact List.mem_append_right _ (List.mem_cons_of_mem _ hx)

/-- The text of the last line is what stands after the last line feed. -/
theorem openLine_eq (h : OpensLine ys ls line) (hcut : ∀ x ∈ ys, x.IsCut) :
    Text.openLine (joined ys) = joined line := by
  have hfree : '\n' ∉ joined line := by
    intro hmem
    obtain ⟨x, hx, hfeed⟩ := List.mem_flatMap.1 hmem
    obtain ⟨s, hs⟩ := hcut x (h.mem hx)
    rcases first?_lineFeed_or hs with rfl | ⟨-, hnot⟩
    · exact h.inline _ hx rfl
    · exact hnot hfeed
  rcases h.before with ⟨rfl, rfl⟩ | ⟨us, rfl, rfl⟩
  · exact Text.openLine_append hfree []
  · have hjoined : joined (us ++ .lineFeed :: line) = joined us ++ ['\n'] ++ joined line := by
      simp [joined, Lexeme.lineFeed]
    rw [hjoined, Text.openLine_append hfree, Text.openLine_lineFeed, List.nil_append]

/-- An empty line has no lexemes. -/
theorem eq_nil (h : OpensLine ys ls line) (hcut : ∀ x ∈ ys, x.IsCut)
    (hempty : Text.openLine (joined ys) = []) : line = [] := by
  rw [h.openLine_eq hcut] at hempty
  cases line with
  | nil => rfl
  | cons x line =>
    obtain ⟨s, hs⟩ := hcut x (h.mem List.mem_cons_self)
    have hx : x.text = [] := (List.append_eq_nil_iff.1 hempty).1
    exact absurd hx (first?_ne_nil hs)

end OpensLine

end Lexeme

/-! ### The line that is checked -/

/-- A text is a number of lines with their ends, and then a line without one. -/
theorem exists_ended (s : List Char) : ∃ done l, s = ended done ++ l ∧ '\n' ∉ l := by
  by_cases hmem : '\n' ∈ s
  · obtain ⟨d, rest, rfl, -⟩ := List.eq_append_cons_of_mem hmem
    obtain ⟨done, l, rfl, hl⟩ := exists_ended rest
    exact ⟨d :: done, l, by simp [ended], hl⟩
  · exact ⟨[], s, rfl, hmem⟩
termination_by s.length

/-- The line after lines with their ends. -/
theorem openLine_ended (done : List (List Char)) {l : List Char} (hl : '\n' ∉ l) :
    Text.openLine (ended done ++ l) = l := by
  have hended : Text.openLine (ended done) = [] := by
    rcases List.eq_nil_or_concat done with rfl | ⟨done, d, rfl⟩
    · rfl
    · rw [List.concat_eq_append, ended_concat, ← List.append_assoc, Text.openLine_lineFeed]
  rw [Text.openLine_append hl, hended, List.nil_append]

theorem exists_ended_openLine (s : List Char) : ∃ done, s = ended done ++ Text.openLine s := by
  obtain ⟨done, l, rfl, hl⟩ := exists_ended s
  exact ⟨done, by rw [openLine_ended done hl]⟩

namespace Text

variable {s t : List Char}

theorem mem_of_mem_openLine {c : Char} (h : c ∈ openLine s) : c ∈ s := by
  obtain ⟨done, hs⟩ := exists_ended_openLine s
  rw [hs]
  exact List.mem_append_right _ h

theorem newline_not_mem_openLine (s : List Char) : '\n' ∉ openLine s := by
  intro h
  have hall := List.all_eq_true.1 List.all_takeWhile '\n' (List.mem_reverse.1 h)
  revert hall
  decide

/-- Nothing on the open line ends another line. -/
theorem isLineEnd_openLine (hs : ∀ c ∈ s, isLineEnd c = true → c = '\n') :
    ∀ c ∈ openLine s, isLineEnd c = false :=
  inline_of_subset hs (fun _ hc => mem_of_mem_openLine hc) (newline_not_mem_openLine s)

/-- The last line of a text that ends with a line feed. -/
theorem getLastD_lines_feed (hs : ∀ c ∈ s, isLineEnd c = true → c = '\n') :
    (lines (s ++ ['\n'])).getLastD [] = openLine s := by
  obtain ⟨done, hdone⟩ := exists_ended_openLine s
  have hlast := getLastD_lines_ended done (t := openLine s ++ ['\n']) (by simp)
  rw [← List.append_assoc, ← hdone] at hlast
  exact hlast.trans (checkedLine_of_inline (isLineEnd_openLine hs))

/-- The last line of a text that does not. -/
theorem getLastD_lines_open (hs : ∀ c ∈ s, isLineEnd c = true → c = '\n')
    (hopen : openLine s ≠ []) : (lines s).getLastD [] = openLine s := by
  obtain ⟨done, hdone⟩ := exists_ended_openLine s
  have hlast := getLastD_lines_ended done hopen
  rw [← hdone, lines_of_inline (isLineEnd_openLine hs) hopen] at hlast
  exact hlast

/-- The line on which a text is cut in two. -/
theorem openLine_append_firstLine_mem (s t : List Char) :
    openLine s ++ firstLine t ∈ (s ++ t).splitOn '\n' := by
  have hline : ∀ l : List Char, '\n' ∉ l → l ++ firstLine t ∈ (l ++ t).splitOn '\n' := by
    intro l hl
    by_cases hmem : '\n' ∈ t
    · obtain ⟨d, rest, rfl, hd⟩ := List.eq_append_cons_of_mem hmem
      have hfirst : firstLine (d ++ '\n' :: rest) = d := firstLine_line.trans (firstLine_inline hd)
      rw [hfirst, ← List.append_assoc, List.splitOn_append_cons_self_of_not_mem (by simp [hl, hd])]
      exact List.mem_cons_self
    · rw [firstLine_inline hmem, List.splitOn_eq_singleton (by simp [hl, hmem])]
      exact List.mem_singleton.2 rfl
  obtain ⟨done, hdone⟩ := exists_ended_openLine s
  have hopen := hline _ (newline_not_mem_openLine s)
  generalize openLine s = l at hdone hopen
  subst hdone
  induction done with
  | nil => exact hopen
  | cons d done ih =>
    have hsplit : ended (d :: done) ++ l ++ t = d ++ '\n' :: (ended done ++ l ++ t) := by
      simp [ended]
    rw [hsplit, List.splitOn_append_cons_self]
    exact List.mem_append_right _ ih

end Text

namespace Place

variable {here : Place} {s t : List Char}

theorem lastLine_of_append (htext : here.text = s ++ t) (hpos : here.position = s.length) :
    here.lastLine = (Text.lines s).getLastD [] := by
  by_cases hs : s = []
  · subst hs
    have hzero : here.position = 0 := hpos
    unfold lastLine Layout.lastLine
    rw [if_pos hzero]
    rfl
  · have hne : s.length ≠ 0 := fun h => hs (List.length_eq_zero_iff.1 h)
    rw [lastLine_of_take hpos hne (by rw [htext]; simp), htext, List.take_left]

/-- If no line of a text is an `if` with its body, no line that is checked is, even where the
reading stops on a line. -/
theorem isOneLineIf_lastLine (htext : here.text = s ++ t) (hpos : here.position = s.length)
    (hends : ∀ c ∈ s, Text.isLineEnd c = true → c = '\n')
    (hif : ∀ l ∈ here.text.splitOn '\n', Check.isOneLineIf l = false) :
    Check.isOneLineIf here.lastLine = false := by
  have hpart : ∀ u v, here.text = u ++ v → Check.isOneLineIf (Text.openLine u) = false := by
    intro u v huv
    cases hone : Check.isOneLineIf (Text.openLine u) with
    | false => rfl
    | true =>
      have hlonger : Check.isOneLineIf (Text.openLine u ++ Text.firstLine v) = true :=
        Pattern.fits_append rfl _ hone
      rw [hif _ (huv ▸ Text.openLine_append_firstLine_mem u v)] at hlonger
      cases hlonger
  rw [lastLine_of_append htext hpos]
  by_cases hopen : Text.openLine s = []
  · -- the line before the open one, if there is one
    obtain ⟨done, hdone⟩ := exists_ended_openLine s
    rw [hopen, List.append_nil] at hdone
    rcases List.eq_nil_or_concat done with rfl | ⟨done, d, rfl⟩
    · rw [hdone]
      rfl
    · rw [List.concat_eq_append, ended_concat, ← List.append_assoc] at hdone
      rw [hdone] at htext hends ⊢
      rw [Text.getLastD_lines_feed fun c hc => hends c (List.mem_append_left _ hc)]
      exact hpart _ ('\n' :: t) (by rw [htext, List.append_assoc]; rfl)
  · rw [Text.getLastD_lines_open hends hopen]
    exact hpart s t htext

end Place

/-! ### Levels -/

theorem Check.levelAfter_eq {line : List Char} (h : isOneLineIf line = false) (level shift : Int) :
    levelAfter level shift line = level + Lexeme.stepOf shift := by
  simp only [levelAfter, levelOf, Lexeme.stepOf, h, if_neg Bool.false_ne_true]
  split <;> split <;> split <;> omega

namespace Ledger

variable {p : Profile} {l : Ledger} {x : Lexeme} {here : Place} {ys : List Lexeme}

/-- Only directives change what is skipped. -/
theorem skips_next (hx : x.kind ≠ .directive) (here : Place) (o : Outline) (l : Ledger) :
    (l.next p x here o).skipFile = l.skipFile ∧ (l.next p x here o).skipLine = l.skipLine := by
  unfold next
  split
  · exact ⟨rfl, rfl⟩
  · unfold takeIn
    cases hrole : x.role with
    | lineEnd => exact skips_checkLine p _ _
    | directive command => exact absurd (x.kind_of_directive hrole) hx
    | word =>
      simp only [meet, inspect, heed_kind]
      split <;> exact ⟨rfl, rfl⟩

theorem IsOpen.next (h : l.IsOpen) (hx : x.kind ≠ .directive) (here : Place) (o : Outline) :
    (l.next p x here o).IsOpen := by
  obtain ⟨hfile, hline⟩ := skips_next (p := p) hx here o l
  exact ⟨hfile ▸ h.skipFile, hline ▸ h.skipLine⟩

/-- Only an empty line is not looked at. -/
theorem eq_nil_of_findIndentation {s : Settings} (hs : s.isActive .indentation = .ok true)
    {level shift : Int} {line : List Char}
    (h : Check.findIndentation s level line shift = .ok none) : line = [] := by
  by_cases hline : line = []
  · exact hline
  · unfold Check.findIndentation at h
    rw [hs, List.isEmpty_eq_false_iff.2 hline] at h
    cases hat : Check.findIndentAt s (Check.levelOf level shift) line with
    | error f =>
      simp only [bind, Except.bind, hat] at h
      cases h
    | ok c =>
      simp only [bind, Except.bind, hat] at h
      cases h

/-- **The end of a line** moves the level by what its shift stands for, if nothing is shifted on an
empty line. -/
theorem step_checkLine (hp : p.settings.isActive .indentation = .ok true) (hl : l.IsOpen)
    (hfind : ∃ v, Check.findIndentation p.settings l.level here.lastLine l.shift = .ok v)
    (hif : Check.isOneLineIf here.lastLine = false) (hempty : here.lastLine = [] → l.shift = 0) :
    (l.checkLine p here).level = l.level + Lexeme.stepOf l.shift ∧
      (l.checkLine p here).shift = 0 := by
  obtain ⟨v, hv⟩ := hfind
  rw [← Prod.mk.injEq, level_checkLine (hl.isChecked _), hv]
  cases v with
  | none =>
    rw [hempty (eq_nil_of_findIndentation hp hv)]
    exact congrArg (·, 0) (Int.add_zero _).symm
  | some v =>
    have hafter := gives_levelAfter _ _ _ _ _ hv v rfl
    exact congrArg (·, 0) (hafter.trans (Check.levelAfter_eq hif _ _))

/-- What holds after some lexemes: the lines that have ended have moved the level, and what stands
on the open line is still to come. -/
structure LevelsAt (ys : List Lexeme) (l : Ledger) : Prop where
  isOpen : l.IsOpen
  levels : ∃ ls line, Lexeme.OpensLine ys ls line ∧
    l.level = Lexeme.totalOver Lexeme.lineStep ls ∧ l.shift = Lexeme.shiftOf line

/-- The end of the open line, if it is found empty only where it is. -/
theorem LevelsAt.checkLine (h : l.LevelsAt ys) (hcut : ∀ y ∈ ys, y.IsCut)
    (hp : p.settings.isActive .indentation = .ok true)
    (hfind : ∃ v, Check.findIndentation p.settings l.level here.lastLine l.shift = .ok v)
    (hif : Check.isOneLineIf here.lastLine = false)
    (hempty : here.lastLine = [] → Text.openLine (joined ys) = []) :
    (l.checkLine p here).level = Lexeme.totalOver Lexeme.lineStep (Lexeme.linesOf ys) ∧
      (l.checkLine p here).shift = 0 := by
  obtain ⟨ls, line, hopens, hlevel, hshift⟩ := h.levels
  have hnone : here.lastLine = [] → l.shift = 0 := by
    intro hline
    rw [hshift, hopens.eq_nil hcut (hempty hline)]
    rfl
  have hsum := Lexeme.shiftOf_eq fun x hx => hcut x (hopens.mem hx)
  obtain ⟨hstep, hzero⟩ := step_checkLine hp h.isOpen hfind hif hnone
  refine ⟨?_, hzero⟩
  rw [hstep, hopens.linesOf_eq, Lexeme.totalOver_concat, hlevel, hshift, hsum]
  rfl

theorem levelsAt_start (text : List Char) : (Reading.fresh.start text).ledger.LevelsAt [] :=
  ⟨⟨rfl, fun _ hn => by cases hn⟩, [], [], ⟨by simp, .inl ⟨rfl, rfl⟩⟩, rfl, rfl⟩

end Ledger

namespace Reading

variable {p : Profile} {text : List Char} {ys zs : List Lexeme} {x : Lexeme} {r r' : Reading}

/-- The last line of a text is finished only if the check of its indentation gives an answer. -/
theorem findIndentation_finish {rest : List Char} (h : finish p rest r = .ok () r')
    (hchecked : r.isChecked = true) :
    ∃ v, Check.findIndentation p.settings r.level r.place.lastLine r.shift = .ok v := by
  rw [finish_eq] at h
  obtain ⟨⟨⟩, r₁, hcheck, -⟩ := bind_ok h
  split at hcheck
  · exact findIndentation_checkLine hcheck hchecked
  · exact findIndentation_checkLine (r := r.recordUnmatched) hcheck hchecked

section Levels

variable (hp : p.settings.isActive .indentation = .ok true)
  (hends : ∀ c ∈ text, Text.isLineEnd c = true → c = '\n')
  (hif : ∀ l ∈ text.splitOn '\n', Check.isOneLineIf l = false)

include hp hends hif

/-- **A lexeme** on a line adds its shift, and a line feed moves the level by their sum. -/
theorem levelsAt_readLexeme (hsplit : (scan text).1 = ys ++ x :: zs) (hx : x.kind ≠ .directive)
    (hstands : r.StandsAfter text ys) (hr : r.ledger.LevelsAt ys)
    (h : readLexeme p x r = .ok () r') : r'.ledger.LevelsAt (ys ++ [x]) := by
  have hcut : ∀ y ∈ ys ++ x :: zs, y.IsCut := fun y hy => Lexeme.isCut_of_mem (hsplit ▸ hy)
  have hys : ∀ y ∈ ys, y.IsCut := fun y hy => hcut y (List.mem_append_left _ hy)
  have hxcut : x.IsCut := hcut x (List.mem_append_right _ List.mem_cons_self)
  obtain ⟨ls, line, hopens, hlevel, hshift⟩ := hr.levels
  refine ⟨ledger_readLexeme h ▸ hr.isOpen.next hx r.place r.outline, ?_⟩
  by_cases hk : x.kind = .newLine
  · obtain ⟨s, hs⟩ := hxcut
    have hfeed : x = .lineFeed := (Lexeme.first?_lineFeed_or hs).resolve_right fun hnot => hnot.1 hk
    subst hfeed
    -- the line that ends here is the open line of what has been read
    have htext : joined ys ++ ['\n'] ++ (joined zs ++ (scan text).2) = text := by
      have hall := (joined_scan text).1
      rw [hsplit] at hall
      simpa [joined, Lexeme.lineFeed] using hall
    have hread : ∀ c ∈ joined ys ++ ['\n'], Text.isLineEnd c = true → c = '\n' :=
      fun c hc => hends c (htext ▸ List.mem_append_left _ hc)
    have hplace : (r.place.beyond .lineFeed).text = joined ys ++ ['\n'] ++
        (joined zs ++ (scan text).2) := hstands.text_eq.trans htext.symm
    have hposition : (r.place.beyond .lineFeed).position = (joined ys ++ ['\n']).length := by
      rw [List.length_append, Int.natCast_add, ← hstands.position]
      rfl
    have hlast : (r.place.beyond .lineFeed).lastLine = Text.openLine (joined ys) := by
      rw [Place.lastLine_of_append hplace hposition, Text.getLastD_lines_feed]
      exact fun c hc => hread c (List.mem_append_left _ hc)
    have hcheck := hr.checkLine hys hp (findIndentation_lineFeed h (hr.isOpen.isChecked r.line))
      (Place.isOneLineIf_lastLine hplace hposition hread (hplace.trans htext ▸ hif))
      (fun hempty => hlast.symm.trans hempty)
    rw [ledger_readLexeme h, Ledger.next_lineFeed]
    refine ⟨_, [], hopens.lineFeed, ?_, hcheck.2⟩
    rw [← hopens.linesOf_eq]
    exact hcheck.1
  · have htreads : Ledger.Treads p r.place.line [x] r.ledger
        (r.ledger.next p x r.place r.outline) := Ledger.treads_next hxcut hk rfl r.outline
    rw [← ledger_readLexeme h] at htreads
    refine ⟨ls, line ++ [x], hopens.concat hk, htreads.level.trans hlevel, ?_⟩
    rw [htreads.shift, hshift, Lexeme.shiftOf_concat]
    simp [Lexeme.shiftOf]

/-- **The lexemes of a text** up to any of them. -/
theorem levelsAt_readLexemes (hdirective : ∀ x ∈ (scan text).1, x.kind ≠ .directive)
    (hsplit : (scan text).1 = ys ++ zs)
    (h : ys.forM (readLexeme p) (fresh.start text) = .ok () r) : r.ledger.LevelsAt ys := by
  refine (forM_invariant (I := fun us s => s.StandsAfter text us ∧ s.ledger.LevelsAt us) ?_
    ⟨standsAfter_start text, Ledger.levelsAt_start text⟩ h).2
  intro us x vs s s' hys hI hone
  have hsplit' : (scan text).1 = us ++ x :: (vs ++ zs) := by
    rw [hsplit, hys, List.append_assoc]
    rfl
  obtain ⟨t, hfirst⟩ := first?_of_mem hsplit'
  have hx : x.kind ≠ .directive := by
    refine hdirective x ?_
    rw [hsplit']
    exact List.mem_append_right _ List.mem_cons_self
  exact ⟨hI.1.readLexeme (Lexeme.first?_lineFeed_or hfirst) hone,
    levelsAt_readLexeme hp hends hif hsplit' hx hI.1 hI.2 hone⟩

/-- **The end of a text** ends its last line, or finds the line before it once more. -/
theorem level_finish {rest : List Char} (hstands : r.StandsAfter text (scan text).1)
    (hr : r.ledger.LevelsAt (scan text).1) (h : finish p rest r = .ok () r') :
    r'.level = Lexeme.totalOver Lexeme.lineStep (Lexeme.linesOf (scan text).1) := by
  have htext := (joined_scan text).1
  have hread : ∀ c ∈ joined (scan text).1, Text.isLineEnd c = true → c = '\n' :=
    fun c hc => hends c (htext ▸ List.mem_append_left _ hc)
  have hplace : r.place.text = joined (scan text).1 ++ (scan text).2 :=
    hstands.text_eq.trans htext.symm
  have hcheck := hr.checkLine (fun _ hx => Lexeme.isCut_of_mem hx) hp
    (findIndentation_finish h (hr.isOpen.isChecked r.line))
    (Place.isOneLineIf_lastLine hplace hstands.position hread (hplace.trans htext ▸ hif)) ?_
  · exact (congrArg Ledger.level (ledger_finish h)).trans hcheck.1
  · intro hempty
    rw [Place.lastLine_of_append hplace hstands.position] at hempty
    refine Decidable.byContradiction fun hopen => hopen ?_
    rw [← Text.getLastD_lines_open hread hopen]
    exact hempty

end Levels

/-- **The level follows the sums of the lines.** The indentation is checked, and the text has no
directives, no ends of lines but line feeds and no `if` with its body on its line. Then the lines
that are read, up to the end of the text or not, move the level one by one: a line whose shifts add
up to one moves it up, one whose shifts add up to minus one moves it down, and any other line leaves
it. This is what the line opens and closes if and only if that is nothing, or a single block and
there is no `else` on the line; if all lines are such, the level at the end is what the text opens
and closes. -/
theorem read_level (p : Profile) (hp : p.settings.isActive .indentation = .ok true)
    (text : List Char) (hdirective : ∀ x ∈ (scan text).1, x.kind ≠ .directive)
    (hends : ∀ c ∈ text, Text.isLineEnd c = true → c = '\n')
    (hif : ∀ l ∈ text.splitOn '\n', Check.isOneLineIf l = false) (r : Reading)
    (h : (read p text).run fresh = .ok () r) :
    (∀ xs ys, (scan text).1 = xs ++ .lineFeed :: ys →
      ∃ s, (xs ++ [.lineFeed]).forM (readLexeme p) (fresh.start text) = .ok () s ∧
        s.level = Lexeme.totalOver Lexeme.lineStep (Lexeme.linesOf xs)) ∧
    r.level = Lexeme.totalOver Lexeme.lineStep (Lexeme.linesOf (scan text).1) ∧
    (∀ line ∈ Lexeme.linesOf (scan text).1, Lexeme.lineStep line = Lexeme.rise line ↔
      Lexeme.rise line = 0 ∨
        Lexeme.divided line = 0 ∧ (Lexeme.rise line = 1 ∨ Lexeme.rise line = -1)) ∧
    ((∀ line ∈ Lexeme.linesOf (scan text).1, Lexeme.rise line = 0 ∨
        Lexeme.divided line = 0 ∧ (Lexeme.rise line = 1 ∨ Lexeme.rise line = -1)) →
      r.level = Lexeme.rise (scan text).1) := by
  obtain ⟨⟨⟩, s, hlex, hfinish⟩ := bind_ok
    (x := (scan text).1.forM (readLexeme p)) (s := fresh.start text) h
  have hwhole : (scan text).1 = (scan text).1 ++ [] := (List.append_nil _).symm
  have hlevel := level_finish hp hends hif (.readLexemes hwhole hlex)
    (levelsAt_readLexemes hp hends hif hdirective hwhole hlex) hfinish
  refine ⟨fun xs ys hsplit => ?_, hlevel, fun line _ => Lexeme.lineStep_eq_rise_iff line,
    fun hlines => ?_⟩
  · have hpart : (scan text).1 = (xs ++ [.lineFeed]) ++ ys := by
      rw [hsplit, List.append_assoc]
      rfl
    rw [hpart] at hlex
    obtain ⟨t, ht, -⟩ := forM_append_ok hlex
    refine ⟨t, ht, ?_⟩
    obtain ⟨ls, line, hopens, hlevel, -⟩ :=
      (levelsAt_readLexemes hp hends hif hdirective hpart ht).levels
    have hended : Lexeme.linesOf (xs ++ [.lineFeed]) = Lexeme.linesOf xs ++ [[]] :=
      List.splitOnP_append_cons xs [] rfl
    have hsame : ls = Lexeme.linesOf xs :=
      (List.append_inj' (hopens.linesOf_eq.symm.trans hended) rfl).1
    rw [← hsame]
    exact hlevel
  · rw [hlevel, Lexeme.totalOver_congr fun line hline =>
      (Lexeme.lineStep_eq_rise_iff line).2 (hlines line hline)]
    exact Lexeme.totalOver_rise fun _ hx => Lexeme.isCut_of_mem hx

/-- A block that is divided and not closed, with a string on its last line that does not end. -/
def unclosedBlock : List Char := "if x\n y\nelse\n z = \"on".toList

/-- Up to where a reading stops, the level is what the lines open and close. -/
theorem read_level_unclosedBlock :
    ∃ r, (read ⟨narrowIndents, fun _ => true⟩ unclosedBlock).run fresh = .ok () r ∧
      r.problems ≠ [] ∧ r.level = Lexeme.rise (scan unclosedBlock).1 ∧
      Lexeme.rise (scan unclosedBlock).1 = 1 := by
  have hfacts : (returnsWith ⟨narrowIndents, fun _ => true⟩ unclosedBlock (·.problems != []) &&
      ((scan unclosedBlock).1.all (·.kind != .directive) &&
        ((Lexeme.linesOf (scan unclosedBlock).1).all (fun line => Lexeme.rise line == 0 ||
            Lexeme.divided line == 0 && (Lexeme.rise line == 1 || Lexeme.rise line == -1)) &&
          Lexeme.rise (scan unclosedBlock).1 == 1))) = true := by
    decide +kernel
  simp only [Bool.and_eq_true, List.all_eq_true, bne_iff_ne, Bool.or_eq_true, beq_iff_eq] at hfacts
  obtain ⟨hreturns, hdirective, hlines, hrise⟩ := hfacts
  obtain ⟨r, h, hr⟩ := exists_of_returnsWith hreturns
  have hends : unclosedBlock.all (fun c => !Text.isLineEnd c || c == '\n') = true := by
    decide +kernel
  obtain ⟨-, -, -, hlevel⟩ := read_level ⟨narrowIndents, fun _ => true⟩ rfl unclosedBlock hdirective
    (fun c hc hend => by simpa [hend] using List.all_eq_true.1 hends c hc) (by decide +kernel) r h
  exact ⟨r, h, bne_iff_ne.1 hr, hlevel hlines, hrise⟩

/-- Three blocks that open on one line, and two that open on one line and are closed on two. -/
def tripleOpening : List Char := "x = \x7by: \x7bz: \x7b".toList
def doubleOpening : List Char := "x = \x7by: \x7b\n\x7d\n\x7d".toList

/-- The level does not follow the blocks: three open and it stays, and two are opened and closed and
it ends below the start. -/
theorem level_tripleOpening :
    (∃ r, (read ⟨narrowIndents, fun _ => true⟩ tripleOpening).run fresh = .ok () r ∧
      r.level = 0 ∧ Lexeme.rise (scan tripleOpening).1 = 3) ∧
    ∃ r, (read ⟨narrowIndents, fun _ => true⟩ doubleOpening).run fresh = .ok () r ∧
      r.level = -2 ∧ Lexeme.rise (scan doubleOpening).1 = 0 := by
  have hfacts : (returnsWith ⟨narrowIndents, fun _ => true⟩ tripleOpening (·.level == 0) &&
      (Lexeme.rise (scan tripleOpening).1 == 3 &&
        (returnsWith ⟨narrowIndents, fun _ => true⟩ doubleOpening (·.level == -2) &&
          Lexeme.rise (scan doubleOpening).1 == 0))) = true := by
    decide +kernel
  simp only [Bool.and_eq_true, beq_iff_eq] at hfacts
  obtain ⟨htriple, hthree, hdouble, hzero⟩ := hfacts
  obtain ⟨r, h, hr⟩ := exists_of_returnsWith htriple
  obtain ⟨r', h', hr'⟩ := exists_of_returnsWith hdouble
  exact ⟨⟨r, h, beq_iff_eq.1 hr, hthree⟩, r', h', beq_iff_eq.1 hr', hzero⟩

end Reading

end BrightLint
