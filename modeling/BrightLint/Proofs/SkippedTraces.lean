import BrightLint.Proofs.SkippedLines

/-!
The traces of skipped lines. Whether a line is complained of for its indentation or for being one
empty line too many depends on the lines before, and a line that is skipped is not counted: its
shift of the indentation is left to the next line, and the run of empty lines goes on over it. So
warnings can arise because a line is skipped. They do not arise if every such line is skipped
without a trace.

* `Settings.Traceless`: lines that can be skipped without a trace
* `Ledger.Books`: what later lines are checked by
* `Ledger.Abreast`, `Ledger.Abreast.line`: what holds between the lines, and what a line does to it
* `Reading.read_skipLine`: to skip lines only removes warnings if they are not about empty lines or
  indentation, or if it leaves no trace
-/

namespace BrightLint

/-! ### Lines without a trace -/

/-- A line that can be skipped without a trace, if the line before it says so. The line does not
skip another one in turn. If the indentation is checked, the line does not change it, and nothing of
the line before is left to be checked. If empty lines are counted, the line is one, or else the line
before is not. -/
def Settings.Traceless (s : Settings) (a b : List Char) : Prop :=
  Text.skipsNext a = true → Text.skipsNext b = false ∧
    (s.isActive .indentation = .ok false ∨ Text.checkedLine a ≠ [] ∧ Text.lineShift b = 0 ∧
      Check.isOneLineIf (Text.checkedLine b) = false) ∧
    (s.isActive .emptyLines = .ok false ∨ Text.isBlankLine b = true ∨ Text.isBlankLine a = false)

theorem Json.less_mono {limit : Json} {m n : Nat} (h : Json.less limit (.int m) = .ok true)
    (hmn : m ≤ n) : Json.less limit (.int n) = .ok true := by
  rw [Json.less_whole] at h ⊢
  cases hlimit : limit.quantity? with
  | none =>
    rw [hlimit] at h
    cases h
  | some q =>
    rw [hlimit] at h
    have hless : q.less (.whole m) = true := Except.ok.inj h
    exact congrArg Except.ok (Quantity.less_whole_mono hless (Int.ofNat_le.2 hmn))

/-- A complaint about empty lines is also made if there are more of them. -/
theorem emptyLines_mono (s : Settings) {m n : Nat} (hmn : m ≤ n) :
    (complaintsOf (Check.findEmptyLines s (.int m))).Sublist
      (complaintsOf (Check.findEmptyLines s (.int n))) := by
  unfold Check.findEmptyLines whenActive
  cases s.isActive .emptyLines with
  | error f => exact List.nil_sublist _
  | ok active =>
    cases active with
    | false => exact List.nil_sublist _
    | true =>
      cases hlimit : s.param .emptyLines "consecutive_empty_lines" with
      | error f => exact List.nil_sublist _
      | ok limit =>
        simp only [bind, Except.bind, if_pos]
        cases hless : Json.less limit (.int m) with
        | error f => exact List.nil_sublist _
        | ok less =>
          cases less with
          | false => exact List.nil_sublist _
          | true => simp [Json.less_mono hless hmn]

namespace Ledger

variable {p q : Profile} {F : Finding → Bool} {l l₁ m m₁ : Ledger}

/-- The books of two ledgers, by which later lines are checked: the same levels, and no more empty
lines in the first. -/
structure Books (p : Profile) (l m : Ledger) : Prop where
  level : m.level = l.level
  shift : m.shift = l.shift
  emptyLines : p.settings.isActive .emptyLines = .ok false ∨ l.emptyLines ≤ m.emptyLines

namespace Books

theorem countLine (h : Books p l m) (hflag : m.isEmptyLine = l.isEmptyLine) :
    Books p l.countLine m.countLine := by
  rw [countLine_eq, countLine_eq, hflag]
  refine ⟨h.level, h.shift, h.emptyLines.imp_right fun hle => ?_⟩
  simp only
  split
  · exact Nat.succ_le_succ hle
  · exact Nat.le_refl 0

theorem lineComplaints (h : Books p l m) (here : Place) :
    (Ledger.lineComplaints p here l.emptyLines).Sublist
      (Ledger.lineComplaints p here m.emptyLines) := by
  unfold Ledger.lineComplaints
  refine List.Sublist.append (List.Sublist.append (List.Sublist.refl _) ?_) (List.Sublist.refl _)
  rcases h.emptyLines with hinactive | hle
  · rw [Check.findEmptyLines, whenActive_of_inactive hinactive]
    exact List.nil_sublist _
  · exact emptyLines_mono p.settings hle

theorem indent (h : Books p l m) (line : List Char) (here : Place) :
    Books p (l.indent p line here) (m.indent p line here) := by
  unfold Ledger.indent
  rw [h.level, h.shift]
  split
  · exact ⟨rfl, rfl, h.emptyLines⟩
  · exact h

end Books

theorem Trails.indent (h : Trails F l m) (hbooks : Books p l m) (line : List Char) (here : Place) :
    Trails F (l.indent p line here) (m.indent p line here) := by
  unfold Ledger.indent
  rw [hbooks.level, hbooks.shift]
  cases Check.findIndentation p.settings l.level line l.shift with
  | error f => exact h
  | ok v =>
    cases v with
    | none => exact h
    | some v =>
      have hwarn := h.warn v.1.toList here
      exact ⟨hwarn.skipFile, hwarn.skipLine, hwarn.warnings⟩

theorem Books.checkLine (h : Books p l m) (hpq : p.DifferInSkipLine q)
    (hflag : m.isEmptyLine = l.isEmptyLine) {here : Place} (hl : l.isChecked here.line = true)
    (hm : m.isChecked here.line = true) : Books p (l.checkLine p here) (m.checkLine q here) := by
  rw [checkLine_of_checked hl, checkLine_of_checked hm, hpq.indent]
  refine Books.indent ?_ _ _
  have hcount := h.countLine hflag
  exact ⟨hcount.level, hcount.shift, hcount.emptyLines⟩

/-- **The end of a line**, if the books agree where it is checked. -/
theorem Trails.checkLine_of_books (h : Trails F l m) (hpq : p.DifferInSkipLine q) {here : Place}
    (hbooks : l.isChecked here.line = true → Books p l m ∧ m.isEmptyLine = l.isEmptyLine) :
    Trails F (l.checkLine p here) (m.checkLine q here) := by
  cases hl : l.isChecked here.line with
  | false =>
    obtain ⟨hfile, hskip⟩ := skips_checkLine q here m
    rw [checkLine_of_unchecked hl]
    refine ⟨hfile.trans h.skipFile, hskip ▸ h.skipLine, h.warnings.trans ?_⟩
    exact (suffix_checkLine q here m).sublist.filter _
  | true =>
    obtain ⟨hbooks, hflag⟩ := hbooks hl
    have hcount := hbooks.countLine hflag
    have hcounted : Trails F l.countLine m.countLine := by
      rw [countLine_eq, countLine_eq]
      exact ⟨h.skipFile, h.skipLine, h.warnings⟩
    rw [checkLine_of_checked hl, checkLine_of_checked (h.isChecked _ hl), hpq.indent,
      hpq.lineComplaints]
    refine Trails.indent (hcounted.warn_mono (hcount.lineComplaints here) here) ?_ _ _
    exact ⟨hcount.level, hcount.shift, hcount.emptyLines⟩

/-- What the end of a line that is checked does to the count of empty lines. -/
theorem count_checkLine {here : Place} (h : l.isChecked here.line = true) :
    (l.checkLine p here).isEmptyLine = true ∧
      (l.checkLine p here).emptyLines = if l.isEmptyLine then l.emptyLines + 1 else 0 := by
  rw [checkLine_of_checked h, countLine_eq]
  unfold indent
  split <;> exact ⟨rfl, rfl⟩

theorem level_indent (p : Profile) (line : List Char) (here : Place) (l : Ledger) :
    ((l.indent p line here).level, (l.indent p line here).shift) =
      match Check.findIndentation p.settings l.level line l.shift with
      | .ok (some (_, level)) => (level, 0)
      | _ => (l.level, l.shift) := by
  unfold indent
  rcases Check.findIndentation p.settings l.level line l.shift with _ | _ | _ <;> rfl

/-- What the end of a line that is checked does to the level. -/
theorem level_checkLine {here : Place} (h : l.isChecked here.line = true) :
    ((l.checkLine p here).level, (l.checkLine p here).shift) =
      match Check.findIndentation p.settings l.level here.lastLine l.shift with
      | .ok (some (_, level)) => (level, 0)
      | _ => (l.level, l.shift) := by
  rw [checkLine_of_checked h, level_indent, countLine_eq]
  rfl

theorem gives_levelAfter (s : Settings) (level : Int) (line : List Char) (shift : Int) :
    Gives (fun o => ∀ v ∈ o, v.2 = Check.levelAfter level shift line)
      (Check.findIndentation s level line shift) := by
  refine Gives.bind fun b => ?_
  split
  · exact gives_ok fun v hv => by cases hv
  · exact Gives.bind fun o => gives_ok fun v hv => by cases hv; rfl

/-- A line that shifts nothing does not change the level. -/
theorem level_checkLine_of_steady {here : Place} (h : l.isChecked here.line = true)
    (hsteady : p.settings.isActive .indentation = .ok false ∨
      l.shift = 0 ∧ Check.isOneLineIf here.lastLine = false) :
    (l.checkLine p here).level = l.level ∧ (l.checkLine p here).shift = l.shift := by
  rw [← Prod.mk.injEq, level_checkLine h]
  rcases hsteady with hinactive | ⟨hshift, hif⟩
  · have hnone : Check.findIndentation p.settings l.level here.lastLine l.shift = .ok none := by
      unfold Check.findIndentation
      rw [hinactive]
      rfl
    rw [hnone]
  · split
    · rename_i after hfind
      have hafter := gives_levelAfter _ _ _ _ _ hfind _ rfl
      simp only [hshift, Check.levelAfter, Check.levelOf, hif] at hafter
      rw [hafter, hshift]
      rfl
    · rfl

/-- The end of a line leaves nothing of its shift, if it is checked and has something on it. -/
theorem shift_checkLine {here : Place} (h : l.isChecked here.line = true)
    (hfind : ∃ v, Check.findIndentation p.settings l.level here.lastLine l.shift = .ok v) :
    p.settings.isActive .indentation = .ok false ∨ here.lastLine = [] ∨
      (l.checkLine p here).shift = 0 := by
  obtain ⟨v, hv⟩ := hfind
  cases v with
  | some v =>
    have hlevel := level_checkLine (p := p) h
    rw [hv] at hlevel
    exact .inr (.inr (congrArg Prod.snd hlevel))
  | none =>
    unfold Check.findIndentation at hv
    cases hactive : p.settings.isActive .indentation with
    | error f =>
      rw [hactive] at hv
      cases hv
    | ok active =>
      cases active with
      | false => exact .inl rfl
      | true =>
        refine .inr (.inl ?_)
        rw [hactive] at hv
        cases hline : here.lastLine with
        | nil => rfl
        | cons c rest =>
          rw [hline] at hv
          cases hat : Check.findIndentAt p.settings (Check.levelOf l.level l.shift) (c :: rest) with
          | error f =>
            rw [hat] at hv
            cases hv
          | ok o =>
            rw [hat] at hv
            cases hv

/-- What holds between the lines, if each line that is skipped is skipped without a trace. -/
structure Abreast (p : Profile) (F : Finding → Bool) (done : List (List Char)) (l m : Ledger) :
    Prop where
  trails : Trails F l m
  lasts : l.Lasts p
  skipLine : ∀ n : Nat, l.skipLine = some (n : Int) → n ≤ 1 + done.length ∧
    (n = 1 + done.length → ∃ a, done.getLast? = some a ∧ Text.skipsNext a = true)
  empty : l.skipFile.isTrue = false → l.isEmptyLine = true ∧ m.isEmptyLine = true
  books : l.skipFile.isTrue = false → Books p l m
  settled : l.skipFile.isTrue = false → ∀ a, done.getLast? = some a → Text.skipsNext a = true →
    (Text.isBlankLine a = false → l.emptyLines = 0) ∧
    (p.settings.isActive .indentation = .ok false ∨ Text.checkedLine a = [] ∨ l.shift = 0)

namespace Abreast

variable {done : List (List Char)}

theorem warn (h : Abreast p F done l m) (cs : List Complaint) (here : Place) :
    Abreast p F done (l.warn cs here) (m.warn cs here) where
  trails := h.trails.warn cs here
  lasts := h.lasts
  skipLine := h.skipLine
  empty := h.empty
  books hfile := ⟨(h.books hfile).level, (h.books hfile).shift, (h.books hfile).emptyLines⟩
  settled := h.settled

theorem lasts_right (h : Abreast p F done l m) (hpq : p.DifferInSkipLine q) : m.Lasts q := by
  unfold Lasts
  rw [h.trails.skipFile, hpq.skipsFile]
  exact h.lasts

/-- A line that is skipped is skipped up to its end. -/
theorem skipLine_end {line : List Char} (h : Abreast p F done l m)
    (htrace : ∀ a, done.getLast? = some a → p.settings.Traceless a line)
    (hl : Treads p (1 + done.length) (scan line).1 l l₁)
    (hskip : l.skipLine = some ((1 + done.length : Nat) : Int)) : l₁.skipLine = l.skipLine := by
  obtain ⟨a, ha, hnext⟩ := (h.skipLine _ hskip).2 rfl
  rcases hl.skipLine with hsame | ⟨hany, -⟩
  · exact hsame
  · have hnone := (htrace a ha hnext).1
    rw [Text.skipsNext, hany] at hnone
    cases hnone

/-- Where a line is checked, the books agree at its end. -/
theorem books_end {line : List Char} (h : Abreast p F done l m) (hpq : p.DifferInSkipLine q)
    (htrace : ∀ a, done.getLast? = some a → p.settings.Traceless a line)
    (hl : Treads p (1 + done.length) (scan line).1 l l₁)
    (hm : Treads q (1 + done.length) (scan line).1 m m₁) (htrails : Trails F l₁ m₁)
    (hchecked : l₁.isChecked (1 + done.length) = true) :
    Books p l₁ m₁ ∧ l₁.isEmptyLine = Text.isBlankLine line ∧
      m₁.isEmptyLine = Text.isBlankLine line := by
  obtain ⟨hline, hfile⟩ := isChecked_iff.1 hchecked
  have hstart : l.skipLine ≠ some ((1 + done.length : Nat) : Int) := fun hskip =>
    hline ((h.skipLine_end htrace hl hskip).trans hskip)
  have hbefore := hl.skipFile_before h.lasts hfile
  have hbooks := h.books hbefore
  refine ⟨⟨?_, ?_, ?_⟩, ?_, ?_⟩
  · rw [hm.level, hl.level, hbooks.level]
  · rw [hm.shift, hl.shift, hbooks.shift]
  · rw [hm.emptyLines, hl.emptyLines]
    exact hbooks.emptyLines
  · rw [hl.counted h.lasts hstart hfile, (h.empty hbefore).1, Bool.true_and]
    rfl
  · rw [hm.counted (h.lasts_right hpq) (h.trails.skipLine _) (htrails.skipFile ▸ hfile),
      (h.empty hbefore).2, Bool.true_and]
    rfl

/-- Where a line is skipped, its end does not change the books of the other side for the worse. -/
theorem skipped_end {line : List Char} (h : Abreast p F done l m) (hpq : p.DifferInSkipLine q)
    (htrace : ∀ a, done.getLast? = some a → p.settings.Traceless a line)
    (hl : Treads p (1 + done.length) (scan line).1 l l₁)
    (hm : Treads q (1 + done.length) (scan line).1 m m₁) (htrails : Trails F l₁ m₁) {here : Place}
    (hhere : here.line = 1 + done.length) (hlast : here.lastLine = Text.checkedLine line)
    (hchecked : l₁.isChecked here.line = false) (hfile : l₁.skipFile.isTrue = false) :
    Text.skipsNext line = false ∧ l₁.isEmptyLine = true ∧
      (m₁.checkLine q here).isEmptyLine = true ∧ Books p l₁ (m₁.checkLine q here) := by
  -- the file is not skipped, so the line is, and the line before it asked for that
  have hskip : l.skipLine = some ((1 + done.length : Nat) : Int) := by
    by_cases hne : l.skipLine = some ((1 + done.length : Nat) : Int)
    · exact hne
    · have htrue := isChecked_iff.2 ⟨hl.skipLine_ne hne, hfile⟩
      rw [← hhere, hchecked] at htrue
      cases htrue
  obtain ⟨a, ha, hnext⟩ := (h.skipLine _ hskip).2 rfl
  obtain ⟨hnone, hindent, hempty⟩ := htrace a ha hnext
  have hbefore := hl.skipFile_before h.lasts hfile
  have hbooks := h.books hbefore
  obtain ⟨hlines, hshift⟩ := h.settled hbefore a ha hnext
  -- the other side checks the line, but finds nothing to change in its books
  have hfile' : m₁.skipFile.isTrue = false := htrails.skipFile ▸ hfile
  have hchecked' := isChecked_iff.2 ⟨htrails.skipLine here.line, hfile'⟩
  obtain ⟨hflag, hcount⟩ := count_checkLine (p := q) hchecked'
  have hblank : m₁.isEmptyLine = Text.isBlankLine line := by
    rw [hm.counted (h.lasts_right hpq) (h.trails.skipLine _) hfile', (h.empty hbefore).2,
      Bool.true_and]
    rfl
  have hsteady : q.settings.isActive .indentation = .ok false ∨
      m₁.shift = 0 ∧ Check.isOneLineIf here.lastLine = false := by
    rw [hpq.isActive (by decide)]
    rcases hindent with hinactive | ⟨hsome, hzero, hif⟩
    · exact .inl hinactive
    · refine hshift.imp_right fun hshift => ⟨?_, hlast ▸ hif⟩
      rw [hm.shift, hbooks.shift, hshift.resolve_left hsome, Int.zero_add]
      exact hzero
  obtain ⟨hlevel, hshift'⟩ := level_checkLine_of_steady hchecked' hsteady
  refine ⟨hnone, ?_, hflag, ?_, ?_, ?_⟩
  · rw [hl.skipped hnone hskip, (h.empty hbefore).1]
  · rw [hlevel, hm.level, hl.level, hbooks.level]
  · rw [hshift', hm.shift, hl.shift, hbooks.shift]
  · rw [hcount, hblank, hm.emptyLines, hl.emptyLines]
    rcases hempty with hinactive | hfull | hfull
    · exact .inl hinactive
    · rw [hfull, if_pos rfl]
      exact hbooks.emptyLines.imp_right Nat.le_succ_of_le
    · rw [hlines hfull]
      exact .inr (Nat.zero_le _)

/-- After a line, the line that is skipped next comes right after it, if at all, and then the line
says so. -/
theorem skipLine_after {line : List Char} (h : Abreast p F done l m) (hpq : p.DifferInSkipLine q)
    (hl : Treads p (1 + done.length) (scan line).1 l l₁) (n : Nat)
    (hn : l₁.skipLine = some (n : Int)) : n ≤ 1 + (done ++ [line]).length ∧
      (n = 1 + (done ++ [line]).length →
        ∃ a, (done ++ [line]).getLast? = some a ∧ Text.skipsNext a = true) := by
  have hlength : 1 + (done ++ [line]).length = 1 + done.length + 1 := by
    rw [List.length_append]
    rfl
  rw [hlength]
  rcases hl.skipLine with hskip | ⟨hany, hskip⟩
  · have hle := (h.skipLine n (hskip ▸ hn)).1
    exact ⟨Nat.le_succ_of_le hle, fun hn => by omega⟩
  · refine ⟨?_, fun _ => ⟨line, List.getLast?_concat, hany⟩⟩
    rw [hpq.skippedLine_active, hn] at hskip
    have := Option.some.inj (Except.ok.inj hskip)
    omega

/-- **A line with its line feed.** -/
theorem line {line : List Char} (h : Abreast p F done l m) (hpq : p.DifferInSkipLine q)
    (htrace : ∀ a, done.getLast? = some a → p.settings.Traceless a line)
    (hl : Treads p (1 + done.length) (scan line).1 l l₁)
    (hm : Treads q (1 + done.length) (scan line).1 m m₁) (htrails : Trails F l₁ m₁) {here : Place}
    (hhere : here.line = 1 + done.length) (hlast : here.lastLine = Text.checkedLine line)
    (hfind : l₁.isChecked here.line = true →
      ∃ v, Check.findIndentation p.settings l₁.level here.lastLine l₁.shift = .ok v) :
    Abreast p F (done ++ [line]) (l₁.checkLine p here) (m₁.checkLine q here) := by
  have hbooks : l₁.isChecked here.line = true → Books p l₁ m₁ ∧
      l₁.isEmptyLine = Text.isBlankLine line ∧ m₁.isEmptyLine = Text.isBlankLine line := by
    rw [hhere]
    exact h.books_end hpq htrace hl hm htrails
  have htrails' := htrails.checkLine_of_books hpq fun hchecked =>
    ⟨(hbooks hchecked).1, (hbooks hchecked).2.2.trans (hbooks hchecked).2.1.symm⟩
  obtain ⟨hfileSame, hskipSame⟩ := skips_checkLine p here l₁
  have hlasts : (l₁.checkLine p here).Lasts p := by
    unfold Lasts
    rw [hfileSame]
    exact hl.lasts h.lasts
  have hskipLine := h.skipLine_after hpq hl
  cases hchecked : l₁.isChecked here.line with
  | true =>
    -- both sides check the line, and then count it and settle its shift alike
    obtain ⟨hbooks, hblank, hblank'⟩ := hbooks hchecked
    have hchecked' := htrails.isChecked _ hchecked
    obtain ⟨hempty, hcount⟩ := count_checkLine (p := p) hchecked
    refine ⟨htrails', hlasts, hskipSame ▸ hskipLine, fun _ => ⟨hempty, ?_⟩, fun _ => ?_,
      fun _ a ha _ => ?_⟩
    · exact (count_checkLine hchecked').1
    · exact hbooks.checkLine hpq (hblank'.trans hblank.symm) hchecked hchecked'
    · rw [List.getLast?_concat] at ha
      cases ha
      refine ⟨fun hfull => ?_, hlast ▸ shift_checkLine hchecked (hfind hchecked)⟩
      rw [hcount, hblank, hfull, if_neg Bool.false_ne_true]
  | false =>
    -- one side skips the line; as this leaves no trace, the line says nothing about the next one
    rw [checkLine_of_unchecked hchecked] at htrails' hlasts ⊢
    have hskipped := h.skipped_end hpq htrace hl hm htrails hhere hlast hchecked
    refine ⟨htrails', hlasts, hskipLine, fun hfile => ?_, fun hfile => ?_,
      fun hfile a ha hnext => ?_⟩
    · exact ⟨(hskipped hfile).2.1, (hskipped hfile).2.2.1⟩
    · exact (hskipped hfile).2.2.2
    · rw [List.getLast?_concat] at ha
      cases ha
      rw [(hskipped hfile).1] at hnext
      cases hnext

end Abreast

end Ledger

/-! ### Whole texts -/

namespace Reading

variable {p q : Profile} {F : Finding → Bool} {text : List Char} {r r' : Reading}

theorem trails_line {s s₁ t t₁ : Reading} {done : List (List Char)} {l : List Char}
    (hpq : p.DifferInSkipLine q) (h : ReadsLine p text done l s s₁)
    (h' : ReadsLine q text done l t t₁) (hout : t.outline = s.outline)
    (htrails : Ledger.Trails F s.ledger t.ledger) :
    t₁.outline = s₁.outline ∧ Ledger.Trails F s₁.ledger t₁.ledger := by
  refine (forM_beside hpq.isLax (scan l).1 (fun x hx here o l m hlm => ?_)
    (h'.start.trans h.start.symm) hout htrails h.lexemes h'.lexemes).2
  refine Ledger.Trails.next_of_inline hlm hpq (fun hrole => ?_) here o
  exact Lexeme.kind_of_mem_line h.inline hx (x.kind_of_lineEnd hrole)

/-- **No finding** is made because a line is skipped, if each such line is skipped without a
trace. -/
theorem trails_read_of_traceless (hpq : p.DifferInSkipLine q)
    (h : (read p text).run fresh = .ok () r) (h' : (read q text).run fresh = .ok () r')
    (hend : (scan text).2 = [])
    (htrace : ∀ before a b after, text.splitOn '\n' = before ++ a :: b :: after →
      p.settings.Traceless a b) :
    Ledger.Trails F r.ledger r'.ledger := by
  have hbetween : ∀ done l rest, text.splitOn '\n' = done ++ l :: rest →
      ∀ a, done.getLast? = some a → p.settings.Traceless a l := by
    intro done l rest hsplit a ha
    obtain ⟨before, rfl⟩ := List.getLast?_eq_some_iff.1 ha
    exact htrace before a l rest (by rw [hsplit, List.append_assoc]; rfl)
  have hrel : RelatedByLines p q text fun done s t =>
      t.outline = s.outline ∧ Ledger.Abreast p F done s.ledger t.ledger := by
    rintro done l rest s s₁ s₂ t t₁ t₂ htext hsplit ⟨hout, habreast⟩ hreads hreads' hfeed hfeed'
    obtain ⟨hout₁, htrails₁⟩ := trails_line hpq hreads hreads' hout habreast.trails
    refine ⟨?_, ?_⟩
    · rw [(readLexeme_ok hfeed).1, (readLexeme_ok hfeed').1, hout₁, hpq.isLax]
    · rw [ledger_readLexeme hfeed, ledger_readLexeme hfeed', Ledger.next_lineFeed,
        Ledger.next_lineFeed, hpq.missingComma, hout₁, hreads'.stop, hreads.stop]
      refine Ledger.Abreast.warn (habreast.line hpq (hbetween done l _ hsplit) hreads.treads
        hreads'.treads htrails₁ rfl (Place.lastLine_lineFeed htext) fun hchecked => ?_) _ _
      have hfind := findIndentation_lineFeed hfeed (by
        rw [← hchecked, show s₁.isChecked = s₁.ledger.isChecked s₁.place.line from rfl,
          hreads.stop]
        rfl)
      rw [hreads.stop] at hfind
      exact hfind
  have hstart : Ledger.Abreast p F [] (fresh.start text).ledger (fresh.start text).ledger :=
    { trails := ⟨rfl, fun n hn => (by cases hn), List.Sublist.refl _⟩
      lasts := fun htrue => by cases htrue
      skipLine := fun n hn => by cases hn
      empty := fun _ => ⟨rfl, rfl⟩
      books := fun _ => ⟨rfl, rfl, .inr (Nat.le_refl _)⟩
      settled := fun _ a ha => by cases ha }
  -- the last line is checked without a line feed, and nothing is left to be kept after it
  obtain ⟨done, last, s, s₁, t, t₁, htext, hsplit, ⟨hout, habreast⟩, hreads, hreads', hfinish,
    hfinish'⟩ := hrel.read ⟨rfl, hstart⟩ h h' hend
  obtain ⟨-, htrails₁⟩ := trails_line hpq hreads hreads' hout habreast.trails
  rw [ledger_finish hfinish, ledger_finish hfinish', hreads.stop, hreads'.stop]
  refine htrails₁.checkLine_of_books hpq fun hchecked => ?_
  obtain ⟨hbooks, hblank, hblank'⟩ := habreast.books_end hpq (hbetween done last _ hsplit)
    hreads.treads hreads'.treads htrails₁ hchecked
  exact ⟨hbooks, hblank'.trans hblank.symm⟩

/-- Settings with one check, and with directives to skip a line followed or not. -/
def withSkipLine (skip : Bool) (entry : Json.Key × Json) : Settings :=
  .obj [("skip_line", .obj [("active", .bool skip)]), entry]

theorem differ_withSkipLine (entry : Json.Key × Json) (knows : Dictionary) :
    Profile.DifferInSkipLine ⟨withSkipLine true entry, knows⟩
      ⟨withSkipLine false entry, knows⟩ where
  knows := rfl
  fields := by
    refine ⟨_, _, rfl, rfl, fun key hkey => ?_⟩
    have hne : (key == .text "skip_line") = false := beq_eq_false_iff_ne.2 hkey
    simp only [Json.field?, List.lookup_cons, hne]
  active := rfl
  inactive := rfl

/-- One empty line at a time is allowed. -/
def oneEmptyLineEntry : Json.Key × Json :=
  ("consecutive_empty_lines", .obj [("active", .bool true),
    ("params", .obj [("consecutive_empty_lines", .int 1)])])

/-- A level is one character of white space, or one tab. -/
def indentationEntry (onlyTabs : Bool) : Json.Key × Json :=
  ("check_indentation", .obj [("active", .bool true),
    ("params", .obj [("tab_size", .int 1), ("only_tab_indents", .bool onlyTabs)])])

/-- A word that is skipped, between a line that counts as empty and an empty one. -/
def skippedWord : List Char := "'BSLint_skip_line\nx\n\ny".toList

/-- A block whose first line is skipped. -/
def skippedOpening : List Char := "'BSLint_skip_line\nif\n\tx".toList

/-- Whether there is one warning, with a given finding, if the line is skipped, and otherwise
none. -/
def arisesFromSkip (entry : Json.Key × Json) (text : List Char) (f : Finding) : Bool :=
  returnsWith ⟨withSkipLine true entry, fun _ => true⟩ text
      (fun r => r.warnings.map (·.complaint.finding) == [f]) &&
    returnsWith ⟨withSkipLine false entry, fun _ => true⟩ text (·.warnings.isEmpty)

theorem arisesFromSkip_emptyLines :
    arisesFromSkip oneEmptyLineEntry skippedWord .emptyLines = true := by
  decide +kernel

theorem arisesFromSkip_indentTabs :
    arisesFromSkip (indentationEntry true) skippedOpening .indentTabs = true := by
  decide +kernel

theorem arisesFromSkip_indentWidth :
    arisesFromSkip (indentationEntry false) skippedOpening .indentWidth = true := by
  decide +kernel

/-- To skip lines only removes warnings, as far as some kinds of findings go: whatever the text and
the settings are, those that are left are all among those without skipping, in the same order. -/
def SkipOnlyRemoves (F : Finding → Bool) : Prop :=
  ∀ p q text r r', Profile.DifferInSkipLine p q → (read p text).run fresh = .ok () r →
    (read q text).run fresh = .ok () r' →
    (keptWarnings F r.warnings.reverse).Sublist (keptWarnings F r'.warnings.reverse)

theorem sublist_of_trails (h : Ledger.Trails F r.ledger r'.ledger) :
    (keptWarnings F r.warnings.reverse).Sublist (keptWarnings F r'.warnings.reverse) := by
  unfold keptWarnings
  rw [List.filter_reverse, List.filter_reverse]
  exact h.warnings.reverse

/-- A finding that is made because a line is skipped. -/
theorem SkipOnlyRemoves.eq_false (h : SkipOnlyRemoves F) {entry : Json.Key × Json} {f : Finding}
    (harises : arisesFromSkip entry text f = true) : F f = false := by
  unfold arisesFromSkip at harises
  rw [Bool.and_eq_true] at harises
  obtain ⟨r, hr, hone⟩ := exists_of_returnsWith harises.1
  obtain ⟨r', hr', hnone⟩ := exists_of_returnsWith harises.2
  have hsub := h _ _ _ _ _ (differ_withSkipLine entry _) hr hr'
  rw [List.isEmpty_iff.1 hnone] at hsub
  obtain ⟨w, hw, hf⟩ : ∃ w, r.warnings = [w] ∧ w.complaint.finding = f := by
    have hmap := beq_iff_eq.1 hone
    obtain ⟨w, hw, hf⟩ := List.map_eq_singleton_iff.1 hmap
    exact ⟨w, hw, hf⟩
  rw [hw] at hsub
  cases hF : F f with
  | false => rfl
  | true => simp [keptWarnings, hf, hF] at hsub

/-- **Skipped lines.** As far as some kinds of findings go, to skip lines only removes warnings if
they are not about empty lines or indentation. The warnings of all kinds are only removed if every
line that is skipped, in a text that can be cut up to its end, is skipped without a trace. -/
theorem read_skipLine (F : Finding → Bool) :
    (SkipOnlyRemoves F ↔
      F .emptyLines = false ∧ F .indentTabs = false ∧ F .indentWidth = false) ∧
    ∀ p q text r r', Profile.DifferInSkipLine p q → (read p text).run fresh = .ok () r →
      (read q text).run fresh = .ok () r' → (scan text).2 = [] →
      (∀ before a b after, text.splitOn '\n' = before ++ a :: b :: after →
        p.settings.Traceless a b) →
      r.warnings.reverse.Sublist r'.warnings.reverse := by
  refine ⟨⟨fun h => ?_, fun hF => ?_⟩, ?_⟩
  · exact ⟨h.eq_false arisesFromSkip_emptyLines, h.eq_false arisesFromSkip_indentTabs,
      h.eq_false arisesFromSkip_indentWidth⟩
  · intro p q text r r' hpq h h'
    exact sublist_of_trails (trails_read hpq ⟨hF.1, hF.2.1, hF.2.2⟩ h h')
  · intro p q text r r' hpq h h' hend htrace
    have hsub := sublist_of_trails
      (trails_read_of_traceless (F := fun _ => true) hpq h h' hend htrace)
    rwa [keptWarnings_all, keptWarnings_all] at hsub

/-- A line with a word that skips the first of three empty lines. -/
def skippedGap : List Char := "x 'BSLint_skip_line\n\n\n".toList

theorem read_skipLine_skippedGap :
    ∃ r r', (read ⟨withSkipLine true oneEmptyLineEntry, fun _ => true⟩ skippedGap).run fresh =
        .ok () r ∧
      (read ⟨withSkipLine false oneEmptyLineEntry, fun _ => true⟩ skippedGap).run fresh =
        .ok () r' ∧
      r.warnings.reverse.Sublist r'.warnings.reverse ∧ r.warnings.length = 1 ∧
      r'.warnings.length = 2 := by
  have hruns : (returnsWith ⟨withSkipLine true oneEmptyLineEntry, fun _ => true⟩ skippedGap
      (·.warnings.length == 1) &&
      (returnsWith ⟨withSkipLine false oneEmptyLineEntry, fun _ => true⟩ skippedGap
        (·.warnings.length == 2) && (scan skippedGap).2.isEmpty)) = true := by
    decide +kernel
  simp only [Bool.and_eq_true] at hruns
  obtain ⟨hskip, hcheck, hend⟩ := hruns
  obtain ⟨r, h, hr⟩ := exists_of_returnsWith hskip
  obtain ⟨r', h', hr'⟩ := exists_of_returnsWith hcheck
  refine ⟨r, r', h, h', ?_, beq_iff_eq.1 hr, beq_iff_eq.1 hr'⟩
  refine (read_skipLine fun _ => true).2 _ _ _ r r' (differ_withSkipLine _ _) h h'
    (List.isEmpty_iff.1 hend) ?_
  intro before a b after hsplit hnext
  have hlines : skippedGap.splitOn '\n' = ["x 'BSLint_skip_line".toList, [], [], []] := by
    decide +kernel
  have hmem : b ∈ (skippedGap.splitOn '\n').tail := by
    rw [hsplit]
    cases before <;> simp
  have hblank : b = [] := by
    rw [hlines] at hmem
    simpa using hmem
  subst hblank
  exact ⟨by decide +kernel, .inl rfl, .inr (.inl (by decide +kernel))⟩

/-- A line is complained of only because another one is skipped. -/
theorem read_skippedWord :
    ∃ r r', (read ⟨withSkipLine true oneEmptyLineEntry, fun _ => true⟩ skippedWord).run fresh =
        .ok () r ∧
      (read ⟨withSkipLine false oneEmptyLineEntry, fun _ => true⟩ skippedWord).run fresh =
        .ok () r' ∧
      ¬ r.warnings.reverse.Sublist r'.warnings.reverse := by
  have harises := arisesFromSkip_emptyLines
  unfold arisesFromSkip at harises
  rw [Bool.and_eq_true] at harises
  obtain ⟨r, h, hone⟩ := exists_of_returnsWith harises.1
  obtain ⟨r', h', hnone⟩ := exists_of_returnsWith harises.2
  refine ⟨r, r', h, h', fun hsub => ?_⟩
  have hlength := congrArg List.length (beq_iff_eq.1 hone)
  rw [List.length_map] at hlength
  have hle := hsub.length_le
  rw [List.isEmpty_iff.1 hnone, List.length_reverse, hlength] at hle
  exact absurd hle (by decide)

end Reading

end BrightLint
