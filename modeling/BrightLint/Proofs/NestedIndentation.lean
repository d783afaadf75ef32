import BrightLint.Proofs.LineEndChecks

/-!
The indentation of nested code. The words of a line shift the indentation, and the sum of what they
add says what the line is in its block: a plain line, the first or the last line, or a line that
divides the block. If the indentation is the only thing that is checked, and white space of any kind
counts, then a well nested text is complained of on exactly those lines that do not start with the
white space that their depth asks for, and at its end no block is open.

* `Text.margin`, `Pattern.fits_margin`: the white space at the start of a line
* `WellNested`: lines that are well nested, and the depths at which they stand
* `Ledger.Indents`, `Ledger.Indents.line`: what holds between the lines, and what a line does to it
* `Reading.read_indentation`: the warnings about the indentation
-/

namespace BrightLint

/-! ### The start of a line -/

/-- How much white space a line starts with. -/
def Text.margin (l : List Char) : Nat := (l.takeWhile Text.isBlank).length

namespace Pattern

theorem afterRounds_nil (f : Nat → List Nat) (n : Nat) : afterRounds f n [] = [] := by
  cases n <;> rfl

theorem ends_one {s t : List Char} {i : Nat} (h : s.drop i = t) (test : Char → Bool) :
    (one test).ends s.toArray i = if t.head?.any test then [i + 1] else [] := by
  rw [ends, List.getElem?_toArray, ← List.head?_drop, h]

/-- A number of characters of a class, and then one outside of it. -/
theorem ends_rounds_ne_nil_iff (test : Char → Bool) (n : Nat) {s t : List Char} {i : Nat}
    (h : s.drop i = t) :
    (afterRounds ((one test).ends s.toArray) n [i]).flatMap ((one (!test ·)).ends s.toArray) ≠ [] ↔
      (t.takeWhile test).length = n ∧ n < t.length := by
  induction n generalizing i t with
  | zero =>
    rw [afterRounds, List.flatMap_singleton, ends_one h]
    cases t with
    | nil => simp
    | cons c t => cases hc : test c <;> simp [hc]
  | succ n ih =>
    rw [afterRounds, List.flatMap_singleton, ends_one h]
    · cases t with
      | nil => simp [afterRounds_nil]
      | cons c t =>
        cases hc : test c with
        | false => simp [hc, afterRounds_nil]
        | true =>
          have hdrop : s.drop (i + 1) = t := by
            rw [← List.drop_drop, h]
            rfl
          simp only [List.head?_cons, Option.any_some, hc, if_pos, List.takeWhile_cons,
            List.length_cons, Nat.add_lt_add_iff_right, Nat.add_right_cancel_iff]
          exact ih hdrop
    · simp

/-- A number of blanks and then something solid: that is the white space at the start of a line
with something on it. -/
theorem fits_margin (n : Nat) {s : List Char} (hs : ∃ c ∈ s, Text.isBlank c = false) :
    (seq (times n (some n) blank) solid).fits s = decide (Text.margin s = n) := by
  have hlt : Text.margin s < s.length := by
    obtain ⟨c, hmem, hc⟩ := hs
    refine Nat.lt_of_le_of_ne (List.takeWhile_prefix _).length_le fun heq => ?_
    have hall := (List.takeWhile_prefix Text.isBlank).eq_of_length heq
    have hblank := List.all_eq_true.1 List.all_takeWhile c (hall.symm ▸ hmem)
    rw [hc] at hblank
    cases hblank
  have hends : (seq (times n (some n) blank) solid).ends s.toArray 0 =
      ((afterRounds (blank.ends s.toArray) n [0]).flatMap (solid.ends s.toArray)).eraseDups := by
    simp [ends, withinRounds]
  have hdups : ∀ l : List Nat, l.eraseDups ≠ [] ↔ l ≠ [] := by
    intro l
    cases l <;> simp [List.eraseDups_cons]
  rw [fits, hends, Bool.eq_iff_iff, Bool.not_eq_true', List.isEmpty_eq_false_iff, hdups,
    decide_eq_true_eq]
  refine (ends_rounds_ne_nil_iff Text.isBlank n rfl).trans ⟨And.left, fun h => ⟨h, ?_⟩⟩
  exact h ▸ hlt

theorem exactly?_ofNat (p : Pattern) (same : List Char → Pattern) {n : Nat} (hn : n < roundLimit) :
    p.exactly? same n = .ok (times n (some n) p) := by
  unfold exactly?
  rw [if_neg (Int.not_lt.2 (Int.natCast_nonneg n)), Int.toNat_natCast, if_neg (Nat.not_le.2 hn)]

end Pattern

/-! ### What stands on a line -/

namespace Lexeme

/-- White space at the head of a text is cut off as such. -/
theorem kind_of_isBlank {c : Char} {t : List Char} {x : Lexeme} (h : first? (c :: t) = some x)
    (hc : Text.isBlank c = true) : x.kind = .newLine ∨ x.kind = .blank := by
  by_cases hfeed : c = '\n'
  · subst hfeed
    rw [first?_lineFeed] at h
    cases h
    exact .inl rfl
  · have hfirst : first? (c :: t) = some ⟨[c], .plain, .blank, .blank, 0⟩ := by
      simp [first?, lexemeRules, Rule.read?, Shape.read?, hfeed, hc]
    rw [hfirst] at h
    cases h
    exact .inr rfl

/-- What is not white space starts with something solid. -/
theorem IsCut.exists_cons {x : Lexeme} (h : x.IsCut) (hline : x.kind ≠ .newLine)
    (hblank : x.kind ≠ .blank) : ∃ c t, x.text = c :: t ∧ Text.isBlank c = false := by
  obtain ⟨s, hs⟩ := h
  obtain ⟨u, hu⟩ := first?_isPrefix hs
  obtain ⟨c, t, hx⟩ := List.exists_cons_of_ne_nil (first?_ne_nil hs)
  refine ⟨c, t, hx, ?_⟩
  rw [hx] at hu
  rw [← hu] at hs
  cases hc : Text.isBlank c with
  | false => rfl
  | true => exact ((kind_of_isBlank hs hc).elim hline hblank).elim

theorem IsCut.exists_solid {x : Lexeme} (h : x.IsCut) (hline : x.kind ≠ .newLine)
    (hblank : x.kind ≠ .blank) : ∃ c ∈ x.text, Text.isBlank c = false := by
  obtain ⟨c, t, hx, hc⟩ := h.exists_cons hline hblank
  exact ⟨c, hx ▸ List.mem_cons_self, hc⟩

end Lexeme

/-- A line on which there is more than white space has something solid on it. -/
theorem Text.exists_solid {l : List Char} (hl : '\n' ∉ l) {x : Lexeme} (hx : x ∈ (scan l).1)
    (hblank : x.kind ≠ .blank) : ∃ c ∈ l, isBlank c = false := by
  obtain ⟨c, hmem, hc⟩ :=
    (Lexeme.isCut_of_mem hx).exists_solid (Lexeme.kind_of_mem_line hl hx) hblank
  refine ⟨c, ?_, hc⟩
  rw [← (joined_scan l).1]
  exact List.mem_append_left _ (List.mem_flatMap.2 ⟨x, hx, hmem⟩)

/-! ### Well nested lines -/

/-- Lines inside a number of open blocks, given by what they add to the indentation, and the depths
at which they stand. A line that closes or divides a block stands outside of it. -/
inductive WellNested : Nat → List Int → List Nat → Prop where
  | done : WellNested 0 [] []
  | plain {d : Nat} {shifts : List Int} {ds : List Nat} :
    WellNested d shifts ds → WellNested d (0 :: shifts) (d :: ds)
  | opens {d : Nat} {shifts : List Int} {ds : List Nat} :
    WellNested (d + 1) shifts ds → WellNested d (1 :: shifts) (d :: ds)
  | closes {d : Nat} {shifts : List Int} {ds : List Nat} :
    WellNested d shifts ds → WellNested (d + 1) (-1 :: shifts) (d :: ds)
  | divides {d : Nat} {shifts : List Int} {ds : List Nat} :
    WellNested (d + 1) shifts ds → WellNested (d + 1) (2 :: shifts) (d :: ds)

/-- Where no lines are left, no block is open. -/
theorem WellNested.eq_zero {d : Nat} {ds : List Nat} (h : WellNested d [] ds) : d = 0 := by
  cases h
  rfl

/-- The levels of the check are the depths of the lines. -/
theorem WellNested.level {d : Nat} {shift : Int} {shifts : List Int} {ds : List Nat}
    (h : WellNested d (shift :: shifts) ds) :
    ∃ (here next : Nat) (rest : List Nat), ds = here :: rest ∧ WellNested next shifts rest ∧
      Check.levelOf d shift = here ∧
      ∀ line, Check.isOneLineIf line = false → Check.levelAfter d shift line = next := by
  cases h with
  | plain h =>
    refine ⟨d, d, _, rfl, h, rfl, fun line hline => ?_⟩
    simp [Check.levelAfter, Check.levelOf, hline]
  | opens h =>
    refine ⟨d, d + 1, _, rfl, h, rfl, fun line hline => ?_⟩
    simp [Check.levelAfter, Check.levelOf, hline]
  | @closes d _ _ h =>
    have hlevel : Check.levelOf (d + 1 : Nat) (-1) = d := by simp [Check.levelOf]
    refine ⟨d, d, _, rfl, h, hlevel, fun line hline => ?_⟩
    simp only [Check.levelAfter, hlevel, hline]
    rfl
  | @divides d _ _ h =>
    have hlevel : Check.levelOf (d + 1 : Nat) 2 = d := by simp [Check.levelOf]
    refine ⟨d, d + 1, _, rfl, h, hlevel, fun line hline => ?_⟩
    simp only [Check.levelAfter, hlevel, hline]
    rfl

/-- Whether line `i`, counted from one, is not indented as its depth asks for. An empty line is not
indented at all. -/
def misindented (size : Nat) (placed : List (List Char × Nat)) (i : Nat) : Bool :=
  placed[i - 1]?.any fun (l, d) => !l.isEmpty && Text.margin l != size * d

theorem misindented_of_drop (size : Nat) {ls rest : List (List Char)} {ds ds' : List Nat}
    {line : List Char} {depth n : Nat} (hls : ls.drop n = line :: rest)
    (hds : ds.drop n = depth :: ds') : misindented size (ls.zip ds) (1 + n) =
      (!line.isEmpty && Text.margin line != size * depth) := by
  have hplaced : (ls.zip ds)[n]? = some (line, depth) := by
    rw [List.getElem?_zip_eq_some, ← List.head?_drop, ← List.head?_drop, hls, hds]
    exact ⟨rfl, rfl⟩
  rw [misindented, Nat.add_sub_cancel_left, hplaced]
  rfl

/-! ### The check -/

/-- Settings under which the indentation is checked and nothing else, each level being `size`
characters of white space wide. -/
structure Settings.IndentsBy (size : Nat) (s : Settings) : Prop where
  only : s.Only .indentation
  tabSize : s.param .indentation "tab_size" = .ok (.int size)
  onlyTabs : ∃ v, s.param .indentation "only_tab_indents" = .ok v ∧ v.isTrue = false

theorem Settings.IndentsBy.indentRule {size : Nat} {s : Settings} (h : s.IndentsBy size) {d : Nat}
    (hd : size * d < Pattern.roundLimit) :
    Check.indentRule s (.int d) = .ok ((Pattern.seq
      (.times (size * d) (some (size * d)) .blank) .solid).fits, ⟨.indentWidth, [.int size]⟩) := by
  obtain ⟨v, htabs, hv⟩ := h.onlyTabs
  have hsize := h.tabSize
  unfold Settings.param at htabs hsize
  unfold Check.indentRule
  cases hparams : s.params .indentation with
  | error f =>
    rw [hparams] at hsize
    cases hsize
  | ok params =>
    rw [hparams] at hsize htabs
    change params.get "tab_size" = .ok (.int size) at hsize
    change params.get "only_tab_indents" = .ok v at htabs
    have htest : Check.indentTest .space (.int (size * d : Nat)) = .ok (Pattern.seq
        (.times (size * d) (some (size * d)) .blank) .solid).fits := by
      change (Pattern.blank.exactly? .literal (size * d : Nat)).map _ = _
      rw [Pattern.exactly?_ofNat _ _ hd]
      rfl
    have htimes : Json.times (.int size) (.int d) = .ok (.int (size * d : Nat)) := by
      rw [Json.times_int, Int.natCast_mul]
    simp only [bind, Except.bind, hsize, htabs, hv, htimes, htest]
    rfl

namespace Ledger

variable {p : Profile} {size : Nat} {l l₁ : Ledger} {ls done rest : List (List Char)}
  {ds : List Nat}

/-- The check of the indentation of a line with something on it. -/
theorem findIndentation_eq {s : Settings} (hs : s.IndentsBy size) {level shift : Int} {d : Nat}
    (hlevel : Check.levelOf level shift = d) (hd : size * d < Pattern.roundLimit) {line : List Char}
    (hline : ∃ c ∈ line, Text.isBlank c = false) :
    Check.findIndentation s level line shift =
      .ok (some (if Text.margin line = size * d then none else some ⟨.indentWidth, [.int size]⟩,
        Check.levelAfter level shift line)) := by
  have hne : line.isEmpty = false := by
    obtain ⟨c, hc, -⟩ := hline
    exact List.isEmpty_eq_false_iff.2 (List.ne_nil_of_mem hc)
  unfold Check.findIndentation Check.findIndentAt
  rw [hlevel, hs.indentRule hd, hs.only.active, hne]
  by_cases hmargin : Text.margin line = size * d
  · simp only [bind, Except.bind, Pattern.fits_margin _ hline, hmargin]
    rfl
  · simp only [bind, Except.bind, Pattern.fits_margin _ hline, decide_eq_false hmargin,
      if_neg hmargin]
    rfl

/-- The checks at the end of a line, if only the indentation is checked. -/
theorem checkLine_indentation (hp : p.settings.Only .indentation) (hl : l.IsOpen) (here : Place) :
    l.checkLine p here = l.countLine.indent p here.lastLine here := by
  rw [checkLine_of_checked (hl.isChecked _),
    lineComplaints_eq (hp.others _ (by decide)) (hp.others _ (by decide)), Check.findEmptyLines,
    complaintsOf_inactive (hp.others _ (by decide)), warn_nil]

/-- **The end of a line** that stands at a depth, if only the indentation is checked. An empty line
is not looked at, but then it shifts nothing. -/
theorem checkLine_depth {line : List Char} {depth next : Nat} {here : Place}
    (hp : p.settings.IndentsBy size) (hl : l.IsOpen) (hlast : here.lastLine = line)
    (hline : line = [] ∧ l.shift = 0 ∨ ∃ c ∈ line, Text.isBlank c = false)
    (hof : Check.levelOf l.level l.shift = depth) (hlimit : size * depth < Pattern.roundLimit)
    (hafter : Check.levelAfter l.level l.shift line = next) :
    l.checkLine p here =
      { l.countLine.warn (if !line.isEmpty && Text.margin line != size * depth then
          [⟨.indentWidth, [.int size]⟩] else []) here with level := next, shift := 0 } := by
  rw [checkLine_indentation hp.only hl, hlast, countLine_eq]
  rcases hline with ⟨rfl, hshift⟩ | hline
  · -- an empty line is not looked at, and nothing of its own is pending
    have hnone : Check.findIndentation p.settings l.level [] l.shift = .ok none := by
      unfold Check.findIndentation
      rw [hp.only.active]
      rfl
    rw [hshift] at hafter
    have hlevel : l.level = next := hafter
    simp only [indent, hnone]
    rw [hshift, hlevel]
    rfl
  · have hne : line.isEmpty = false := by
      obtain ⟨c, hc, -⟩ := hline
      exact List.isEmpty_eq_false_iff.2 (List.ne_nil_of_mem hc)
    simp only [indent, findIndentation_eq hp hof hlimit hline, hafter, hne]
    by_cases hmargin : Text.margin line = size * depth <;> simp [hmargin]

/-- What holds between the lines: the level is the number of open blocks, and the lines that are
not indented as they should be have been complained of. -/
structure Indents (size : Nat) (ls : List (List Char)) (ds : List Nat) (done : List (List Char))
    (l : Ledger) : Prop where
  isOpen : l.IsOpen
  shift : l.shift = 0
  nested : ∃ d : Nat, l.level = d ∧
    WellNested d ((ls.drop done.length).map Text.lineShift) (ds.drop done.length)
  warnings : l.warnings.reverse =
    lineWarnings ⟨.indentWidth, [.int size]⟩ (misindented size (ls.zip ds)) done.length

/-- **A line** and its end, be it a line feed or the end of the text. -/
theorem Indents.line {line : List Char} (h : l.Indents size ls ds done)
    (hp : p.settings.IndentsBy size) (hls : ls = done ++ line :: rest)
    (hsolid : line = [] ∨ ∃ c ∈ line, Text.isBlank c = false)
    (hif : Check.isOneLineIf line = false) (hlimit : ∀ d ∈ ds, size * d < Pattern.roundLimit)
    (hcross : l.Crosses (scan line).1 l₁) {here : Place} (hhere : here.line = 1 + done.length)
    (hlast : here.lastLine = line) : (l₁.checkLine p here).Indents size ls ds (done ++ [line]) := by
  obtain ⟨d, hlevel, hnested⟩ := h.nested
  have hdrop : ls.drop done.length = line :: rest := by
    rw [hls, List.drop_left]
  rw [hdrop] at hnested
  obtain ⟨depth, next, ds', hds, hnext, hof, hafter⟩ := hnested.level
  have hdrops : ls.drop (done ++ [line]).length = rest ∧ ds.drop (done ++ [line]).length = ds' := by
    rw [List.length_append, ← List.drop_drop, ← List.drop_drop, hdrop, hds]
    exact ⟨rfl, rfl⟩
  have hmis := misindented_of_drop size hdrop hds
  have hold : l₁.countLine.warnings.reverse =
      lineWarnings ⟨.indentWidth, [.int size]⟩ (misindented size (ls.zip ds)) done.length := by
    rw [countLine_eq, hcross.warnings, h.warnings]
  have hnew := lineWarnings_warn hold hhere
  have hmem : depth ∈ ds := List.mem_of_mem_drop (hds ▸ List.mem_cons_self)
  have hshift : l₁.shift = Text.lineShift line := by
    rw [hcross.shift, h.shift, Int.zero_add]
    rfl
  have hempty : line = [] → l₁.shift = 0 := by
    rintro rfl
    rw [hshift, Text.lineShift, scan_nil]
    rfl
  rw [← hlevel, ← hcross.level, ← hshift] at hof hafter
  rw [checkLine_depth hp hcross.isOpen hlast (hsolid.imp_left fun hl => ⟨hl, hempty hl⟩) hof
    (hlimit depth hmem) (hafter line hif), ← hmis]
  have hopen := hcross.isOpen.countLine
  refine ⟨⟨hopen.skipFile, hopen.skipLine⟩, rfl, ⟨next, rfl, ?_⟩, ?_⟩
  · rw [hdrops.1, hdrops.2]
    exact hnext
  · rw [List.length_append]
    exact hnew

end Ledger

namespace Reading

/-- **The indentation of nested code.** If only the indentation is checked, then the warnings about
a well nested text that can be cut up to its end are one for each line that does not start with as
much white space as its depth asks for, in the order of the lines; and at the end the level is that
of the start. Each line is empty or has more than white space on it, and none is an `if` with its
body; the text does not end with a line feed, and nothing else in it ends a line. -/
theorem read_indentation (p : Profile) (size : Nat) (hp : p.settings.IndentsBy size)
    (text : List Char) (r : Reading) (h : (read p text).run fresh = .ok () r)
    (hproblems : r.problems = []) (hlast : text.getLast? ≠ some '\n')
    (hends : ∀ c ∈ text, Text.isLineEnd c = true → c = '\n')
    (hlines : ∀ l ∈ text.splitOn '\n', l = [] ∨ ∃ x ∈ (scan l).1, x.kind ≠ .blank)
    (hif : ∀ l ∈ text.splitOn '\n', Check.isOneLineIf l = false) (ds : List Nat)
    (hnested : WellNested 0 ((text.splitOn '\n').map Text.lineShift) ds)
    (hlimit : ∀ d ∈ ds, size * d < Pattern.roundLimit) :
    r.warnings.reverse = lineWarnings ⟨.indentWidth, [.int size]⟩
      (misindented size ((text.splitOn '\n').zip ds)) (text.splitOn '\n').length ∧
      r.level = 0 := by
  have honly := hp.only.onlyLines rfl
  have hsolid : ∀ l ∈ text.splitOn '\n', '\n' ∉ l →
      l = [] ∨ ∃ c ∈ l, Text.isBlank c = false := fun l hl hinline =>
    (hlines l hl).imp_right fun ⟨_, hx, hblank⟩ => Text.exists_solid hinline hx hblank
  -- what the checks look at is the line itself, as nothing on it ends another line
  have hinline : ∀ l before after, text = before ++ (l ++ after) → '\n' ∉ l →
      ∀ c ∈ l, Text.isLineEnd c = false := by
    intro l before after htext
    refine Text.inline_of_subset hends fun c hc => ?_
    rw [htext]
    exact List.mem_append_right _ (List.mem_append_left _ hc)
  -- the lines that a line feed ends, and then the last one, which the text ends
  have hkept : KeptByLines p text fun done s =>
      s.ledger.Indents size (text.splitOn '\n') ds done := by
    intro done l rest s s₁ s₂ htext hsplit hindents hreads hfeed
    have hmem : l ∈ text.splitOn '\n' := by
      rw [hsplit]
      exact List.mem_append_right _ List.mem_cons_self
    rw [ledger_lineFeed honly hreads.stop hfeed]
    refine hindents.line hp hsplit (hsolid l hmem hreads.inline) (hif l hmem) hlimit
      (hreads.crosses honly hindents.isOpen) rfl ?_
    rw [Place.lastLine_lineFeed htext,
      Text.checkedLine_of_inline (hinline l (ended done) _ htext hreads.inline)]
  have hstart : (fresh.start text).ledger.Indents size (text.splitOn '\n') ds [] :=
    ⟨⟨rfl, fun n hn => by cases hn⟩, rfl, ⟨0, rfl, hnested⟩, rfl⟩
  obtain ⟨done, last, s, s₁, htext, hsplit, hindents, hreads, hfinish⟩ :=
    hkept.read hstart h ((problems_eq_nil_iff h).1 hproblems)
  have hmem : last ∈ text.splitOn '\n' := by
    rw [hsplit]
    exact List.mem_append_right _ List.mem_cons_self
  have hlastLine : s₁.place.lastLine = last := by
    rw [hreads.stop]
    refine Place.lastLine_unended htext hlast (hinline last (ended done) [] ?_ hreads.inline)
    rw [List.append_nil]
    exact htext
  have hindented := hindents.line hp hsplit (hsolid last hmem hreads.inline) (hif last hmem) hlimit
    (hreads.crosses honly hindents.isOpen) (congrArg Place.line hreads.stop) hlastLine
  rw [← ledger_finish hfinish, ← hsplit] at hindented
  obtain ⟨d, hlevel, hrest⟩ := hindented.nested
  rw [List.drop_length] at hrest
  exact ⟨hindented.warnings, hlevel.trans (congrArg _ hrest.eq_zero)⟩

/-- Settings under which each level is one character of white space, and nothing else is checked. -/
def narrowIndents : Settings :=
  .obj [("check_indentation", .obj [("active", .bool true),
    ("params", .obj [("tab_size", .int 1), ("only_tab_indents", .bool false)])])]

/-- A block with a divided block in it. The first words of the inner one and the last of the outer
one do not stand where they should. -/
def crookedText : List Char := "for x\n if y\n\n\tz\n else\n\t\tz\n end if\n end".toList

theorem read_indentation_crookedText :
    ∃ r, (read ⟨narrowIndents, fun _ => true⟩ crookedText).run fresh = .ok () r ∧
      r.problems = [] ∧ r.warnings.reverse =
        [⟨⟨.indentWidth, [.int 1]⟩, 4⟩, ⟨⟨.indentWidth, [.int 1]⟩, 8⟩] ∧ r.level = 0 := by
  have hindents : narrowIndents.IndentsBy 1 := by
    refine ⟨⟨rfl, fun c hc => ?_⟩, rfl, .bool false, rfl, rfl⟩
    cases c with
    | indentation => exact absurd rfl hc
    | _ => rfl
  have hreturns :
      returnsWith ⟨narrowIndents, fun _ => true⟩ crookedText (·.problems == []) = true := by
    decide +kernel
  obtain ⟨r, h, hr⟩ := exists_of_returnsWith hreturns
  have hshifts : (crookedText.splitOn '\n').map Text.lineShift = [1, 1, 0, 0, 2, 0, -1, -1] := by
    decide +kernel
  have hnested : WellNested 0 [1, 1, 0, 0, 2, 0, -1, -1] [0, 1, 2, 2, 1, 2, 1, 0] :=
    .opens (.opens (.plain (.plain (.divides (.plain (.closes (.closes .done)))))))
  have hends : crookedText.all (fun c => !Text.isLineEnd c || c == '\n') = true := by
    decide +kernel
  obtain ⟨hwarnings, hlevel⟩ := read_indentation _ 1 hindents _ r h (beq_iff_eq.1 hr)
    (by decide +kernel) (fun c hc hend => by simpa [hend] using List.all_eq_true.1 hends c hc)
    (by decide +kernel) (by decide +kernel) _ (hshifts ▸ hnested) (by decide)
  have hcrooked : (List.range' 1 (crookedText.splitOn '\n').length).filter (misindented 1
      ((crookedText.splitOn '\n').zip [0, 1, 2, 2, 1, 2, 1, 0])) = [4, 8] := by
    decide +kernel
  rw [lineWarnings, hcrooked] at hwarnings
  exact ⟨r, h, beq_iff_eq.1 hr, hwarnings, hlevel⟩

end Reading

end BrightLint
