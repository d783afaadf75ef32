import BrightLint.Proofs.LineByLine

/-!
Skipped lines. Two readings of the same text are compared, one under settings by which a directive
to skip a line is followed, one under the same settings but for that. They read the same lexemes
with the same outlines, so they differ in their ledgers only, and there the first one makes fewer
checks. A finding that does not depend on the lines before is therefore never made by the first
reading alone.

* `Profile.DifferInSkipLine`: the two settings
* `Ledger.Trails`: the first ledger has no warnings of its own, of some kinds
* `Ledger.IsSteady`: kinds of findings that do not depend on the lines before
* `Reading.forM_beside`: two readings side by side
* `Reading.trails_read`: no finding of these kinds is made because a line is skipped
-/

namespace BrightLint

/-! ### Settings that differ in one entry -/

/-- Profiles that differ only in whether a directive to skip a line is followed. -/
structure Profile.DifferInSkipLine (p q : Profile) : Prop where
  knows : q.knows = p.knows
  fields : ∃ fs gs, p.settings = .obj fs ∧ q.settings = .obj gs ∧
    ∀ key : Json.Key, key ≠ Check.skipLine.key → Json.field? gs key = Json.field? fs key
  active : p.settings.isActive .skipLine = .ok true
  inactive : q.settings.isActive .skipLine = .ok false

theorem Check.key_ne_skipLine {c : Check} (hc : c ≠ .skipLine) :
    Json.Key.text c.key ≠ Check.skipLine.key := by
  cases c with
  | skipLine => exact absurd rfl hc
  | _ => decide

namespace Profile.DifferInSkipLine

variable {p q : Profile} {c : Check}

theorem activity (h : p.DifferInSkipLine q) (hc : c ≠ .skipLine) :
    q.settings.activity (.str c.key) = p.settings.activity (.str c.key) := by
  obtain ⟨fs, gs, hp, hq, hsame⟩ := h.fields
  unfold Settings.activity Settings.entry?
  rw [hp, hq]
  simp only [hsame c.key (Check.key_ne_skipLine hc)]

theorem isActive (h : p.DifferInSkipLine q) (hc : c ≠ .skipLine) :
    q.settings.isActive c = p.settings.isActive c := by
  unfold Settings.isActive
  rw [h.activity hc]

theorem params (h : p.DifferInSkipLine q) (hc : c ≠ .skipLine) :
    q.settings.params c = p.settings.params c := by
  obtain ⟨fs, gs, hp, hq, hsame⟩ := h.fields
  unfold Settings.params Json.getPath Json.get
  rw [hp, hq]
  simp only [hsame c.key (Check.key_ne_skipLine hc)]

theorem whenActive_eq {α : Type} (h : p.DifferInSkipLine q) (hc : c ≠ .skipLine)
    (body : Except Fault (Option α)) :
    whenActive q.settings c body = whenActive p.settings c body := by
  unfold whenActive
  rw [h.isActive hc]

/-- No check of a lexeme looks at the entry. -/
theorem topicComplaints (h : p.DifferInSkipLine q) (t : Topic) (piece : List Char) (here : Place) :
    t.complaints q piece here = t.complaints p piece here := by
  have hspelling : spellingComplaints q t piece = spellingComplaints p t piece := by
    unfold spellingComplaints Check.findSpelling
    rw [h.isActive (by decide), h.knows]
  unfold Topic.complaints
  rw [hspelling]
  have hcomment : Check.findComment q.settings piece = Check.findComment p.settings piece := by
    unfold Check.findComment Check.commentRules
    rw [h.whenActive_eq (by decide), h.params (by decide)]
  have hoperator : Check.findOperatorSpacing q.settings here.text here.position piece =
      Check.findOperatorSpacing p.settings here.text here.position piece := by
    unfold Check.findOperatorSpacing Settings.param
    rw [h.whenActive_eq (by decide), h.params (by decide)]
  have hdeclaration : Check.findDeclarationSpacing q.settings here.text =
      Check.findDeclarationSpacing p.settings here.text := by
    unfold Check.findDeclarationSpacing Settings.param
    rw [h.isActive (by decide), h.params (by decide)]
  have htracing : Check.findTracing q.settings = Check.findTracing p.settings :=
    h.whenActive_eq (by decide) _
  rw [hcomment, hoperator, hdeclaration, htracing]

theorem missingComma (h : p.DifferInSkipLine q) (o : Outline) :
    o.missingComma q.settings = o.missingComma p.settings := by
  unfold Outline.missingComma Check.findMissingComma
  rw [h.whenActive_eq (by decide)]

theorem findTrailingComma (h : p.DifferInSkipLine q) :
    Check.findTrailingComma q.settings = Check.findTrailingComma p.settings :=
  h.whenActive_eq (by decide) _

theorem droppedComma (h : p.DifferInSkipLine q) (o : Outline) :
    o.droppedComma q.settings = o.droppedComma p.settings := by
  unfold Outline.droppedComma
  rw [h.findTrailingComma]

theorem isLax (h : p.DifferInSkipLine q) : q.isLax = p.isLax := by
  unfold Profile.isLax
  rw [h.findTrailingComma]

/-- No check of a line looks at the entry. -/
theorem lineComplaints (h : p.DifferInSkipLine q) (here : Place) (n : Nat) :
    Ledger.lineComplaints q here n = Ledger.lineComplaints p here n := by
  unfold Ledger.lineComplaints Check.findTrailingBlank Check.findEmptyLines Check.findLongLine
    Settings.param
  rw [h.whenActive_eq (by decide), h.whenActive_eq (by decide), h.whenActive_eq (by decide),
    h.params (by decide), h.params (by decide)]

theorem indent (h : p.DifferInSkipLine q) (line : List Char) (here : Place) (l : Ledger) :
    l.indent q line here = l.indent p line here := by
  have hfind : Check.findIndentation q.settings l.level line l.shift =
      Check.findIndentation p.settings l.level line l.shift := by
    unfold Check.findIndentation Check.findIndentAt Check.indentRule
    rw [h.isActive (by decide), h.params (by decide)]
  unfold Ledger.indent
  rw [hfind]

theorem skippedLine_active (h : p.DifferInSkipLine q) (line : Int) :
    Check.skippedLine p.settings line = .ok (some (line + 1)) :=
  whenActive_of_active h.active _

theorem skippedLine_inactive (h : p.DifferInSkipLine q) (line : Int) :
    Check.skippedLine q.settings line = .ok none :=
  whenActive_of_inactive h.inactive _

theorem skipsFile (h : p.DifferInSkipLine q) :
    Check.skipsFile q.settings = Check.skipsFile p.settings := h.activity (by decide)

end Profile.DifferInSkipLine

/-! ### Side by side -/

/-- The warnings with findings of some kinds. -/
def keptWarnings (F : Finding → Bool) (ws : List Warning) : List Warning :=
  ws.filter fun w => F w.complaint.finding

theorem keptWarnings_all (ws : List Warning) : keptWarnings (fun _ => true) ws = ws :=
  List.filter_eq_self.2 fun _ _ => rfl

namespace Ledger

variable {p q : Profile} {F : Finding → Bool} {l m : Ledger} {x : Lexeme}

/-- A ledger under which lines may be skipped, beside one under which none is: no warning of the
kinds in question is in the first one only. -/
structure Trails (F : Finding → Bool) (l m : Ledger) : Prop where
  skipFile : m.skipFile = l.skipFile
  skipLine : ∀ n : Nat, m.skipLine ≠ some (n : Int)
  warnings : (keptWarnings F l.warnings).Sublist (keptWarnings F m.warnings)

namespace Trails

theorem isChecked (h : Trails F l m) (line : Nat) (hl : l.isChecked line = true) :
    m.isChecked line = true :=
  isChecked_iff.2 ⟨h.skipLine line, h.skipFile ▸ (isChecked_iff.1 hl).2⟩

theorem warn_mono (h : Trails F l m) {cs ds : List Complaint} (hcs : cs.Sublist ds)
    (here : Place) : Trails F (l.warn cs here) (m.warn ds here) := by
  refine ⟨h.skipFile, h.skipLine, ?_⟩
  simp only [Ledger.warn, keptWarnings, List.filter_append]
  exact ((hcs.map _).filter _).append h.warnings

theorem warn (h : Trails F l m) (cs : List Complaint) (here : Place) :
    Trails F (l.warn cs here) (m.warn cs here) := h.warn_mono (List.Sublist.refl cs) here

/-- Only one of the two takes note of a line that is to be skipped. -/
theorem heed (h : Trails F l m) (hpq : p.DifferInSkipLine q) (t : Topic) (line : Nat) :
    Trails F (l.heed p t line) (m.heed q t line) := by
  unfold Ledger.heed
  cases t.inspection? with
  | none => exact h
  | some i =>
    cases i with
    | skipLine =>
      simp only [hpq.skippedLine_active, hpq.skippedLine_inactive]
      exact ⟨h.skipFile, fun n hn => (by cases hn), h.warnings⟩
    | skipFile =>
      simp only [hpq.skipsFile]
      cases Check.skipsFile p.settings with
      | ok v => exact ⟨rfl, h.skipLine, h.warnings⟩
      | error f => exact h
    | _ => exact h

theorem inspect (h : Trails F l m) (hpq : p.DifferInSkipLine q) (t : Topic) (piece : List Char)
    (here : Place) : Trails F (l.inspect p t piece here) (m.inspect q t piece here) := by
  unfold Ledger.inspect
  rw [hpq.topicComplaints]
  exact (h.heed hpq t here.line).warn _ _

theorem meet (h : Trails F l m) (hpq : p.DifferInSkipLine q) (here : Place) :
    Trails F (l.meet p x here) (m.meet q x here) := by
  unfold Ledger.meet
  have hwords : Trails F { l with isEmptyLine := false } { m with isEmptyLine := false } :=
    ⟨h.skipFile, h.skipLine, h.warnings⟩
  have hright : Trails F l { m with isEmptyLine := false } := ⟨h.skipFile, h.skipLine, h.warnings⟩
  cases hl : l.isChecked here.line with
  | true =>
    rw [if_pos rfl, if_pos (h.isChecked _ hl)]
    exact hwords.inspect hpq _ _ _
  | false =>
    -- what is said on the right only may well be missing on the left
    rw [if_neg Bool.false_ne_true]
    split
    · unfold Ledger.inspect
      rw [heed_kind]
      exact hright.warn_mono (List.nil_sublist _) _
    · exact h

/-- **A lexeme on a line.** -/
theorem next_of_inline (h : Trails F l m) (hpq : p.DifferInSkipLine q) (hx : x.role ≠ .lineEnd)
    (here : Place) (o : Outline) : Trails F (l.next p x here o) (m.next q x here o) := by
  have hshift :
      Trails F { l with shift := l.shift + x.shift } { m with shift := m.shift + x.shift } :=
    ⟨h.skipFile, h.skipLine, h.warnings⟩
  unfold next
  split
  · exact h
  · rw [hpq.droppedComma]
    refine Trails.warn ?_ _ _
    unfold takeIn
    cases hrole : x.role with
    | lineEnd => exact absurd hrole hx
    | directive command => exact hshift.inspect hpq _ _ _
    | word => exact hshift.meet hpq _

end Trails

/-! ### Ends of lines -/

/-- Kinds of findings that do not depend on the lines before. -/
structure IsSteady (F : Finding → Bool) : Prop where
  emptyLines : F .emptyLines = false
  indentTabs : F .indentTabs = false
  indentWidth : F .indentWidth = false

theorem gives_emptyLines (s : Settings) (n : Json) :
    Gives (fun o => ∀ c ∈ o, c.finding = .emptyLines) (Check.findEmptyLines s n) := by
  refine Gives.bind fun b => ?_
  split
  · refine Gives.bind fun allowed => Gives.bind fun b => ?_
    split
    · exact gives_ok fun c hc => by cases hc; rfl
    · exact gives_ok fun c hc => by cases hc
  · exact gives_ok fun c hc => by cases hc

theorem gives_indentAt (s : Settings) (level : Int) (line : List Char) :
    Gives (fun o => ∀ c ∈ o, c.finding = .indentTabs ∨ c.finding = .indentWidth)
      (Check.findIndentAt s level line) := by
  have hrule : Gives (fun v => v.2.finding = .indentTabs ∨ v.2.finding = .indentWidth)
      (Check.indentRule s (.int level)) := by
    refine Gives.bind fun params => Gives.bind fun size => Gives.bind fun onlyTabs => ?_
    split
    · exact Gives.bind fun fits => gives_ok (.inl rfl)
    · exact Gives.bind fun width => Gives.bind fun fits => gives_ok (.inr rfl)
  unfold Check.findIndentAt
  cases hv : Check.indentRule s (.int level) with
  | error f => exact fun _ h => by cases h
  | ok v =>
    change Gives _ (if v.1 line then .ok none else .ok (some v.2))
    split
    · exact gives_ok fun c hc => by cases hc
    · exact gives_ok fun c hc => by cases hc; exact hrule v hv

theorem finding_of_indentation {s : Settings} {level shift after : Int} {line : List Char}
    {c : Complaint} (h : Check.findIndentation s level line shift = .ok (some (some c, after))) :
    c.finding = .indentTabs ∨ c.finding = .indentWidth := by
  have hgives : Gives (fun o => ∀ v ∈ o, ∀ c ∈ v.1, c.finding = .indentTabs ∨
      c.finding = .indentWidth) (Check.findIndentation s level line shift) := by
    refine Gives.bind fun b => ?_
    split
    · exact gives_ok fun v hv => by cases hv
    · cases hv : Check.findIndentAt s (Check.levelOf level shift) line with
      | error f => exact fun _ h => by cases h
      | ok o => exact gives_ok fun v hv' => by cases hv'; exact gives_indentAt _ _ _ o hv
  exact hgives _ h _ rfl c rfl

/-- What the checks of a line have to say that does not depend on the lines before. -/
def steadyComplaints (p : Profile) (here : Place) : List Complaint :=
  complaintsOf (Check.findTrailingBlank p.settings here.lastLine) ++
    complaintsOf (Check.findLongLine p.settings (.int here.lineLength))

theorem kept_lineComplaints (hF : IsSteady F) (here : Place) (n : Nat) :
    keptWarnings F ((lineComplaints p here n).map (⟨·, here.line⟩)) =
      keptWarnings F ((steadyComplaints p here).map (⟨·, here.line⟩)) := by
  have hempty : ((complaintsOf (Check.findEmptyLines p.settings (.int n))).map
      (⟨·, here.line⟩ : Complaint → Warning)).filter (fun w => F w.complaint.finding) = [] := by
    rw [List.filter_eq_nil_iff]
    intro w hw
    obtain ⟨c, hc, rfl⟩ := List.mem_map.1 hw
    cases hv : Check.findEmptyLines p.settings (.int n) with
    | error f =>
      rw [hv] at hc
      cases hc
    | ok o =>
      rw [hv] at hc
      rw [gives_emptyLines _ _ o hv c (Option.mem_toList.1 hc), hF.emptyLines]
      exact Bool.false_ne_true
  unfold keptWarnings lineComplaints steadyComplaints
  simp only [List.map_append, List.filter_append, hempty, List.append_nil]

theorem kept_indent (hF : IsSteady F) (line : List Char) (here : Place) (l : Ledger) :
    keptWarnings F (l.indent p line here).warnings = keptWarnings F l.warnings := by
  unfold indent
  split
  · rename_i complaint level hfind
    cases complaint with
    | none => rfl
    | some c =>
      have hc : F c.finding = false := by
        rcases finding_of_indentation hfind with hc | hc
        · rw [hc, hF.indentTabs]
        · rw [hc, hF.indentWidth]
      simp [Ledger.warn, keptWarnings, hc]
  · rfl

theorem kept_checkLine (hF : IsSteady F) (here : Place) (l : Ledger) :
    keptWarnings F (l.checkLine p here).warnings =
      (if l.isChecked here.line then
        keptWarnings F ((steadyComplaints p here).map (⟨·, here.line⟩)) else []) ++
      keptWarnings F l.warnings := by
  unfold checkLine
  split
  · rw [kept_indent hF, ← kept_lineComplaints hF here l.countLine.emptyLines]
    unfold keptWarnings
    rw [← List.filter_append]
    congr 2
    rw [countLine_eq]
    rfl
  · rfl

/-- **The end of a line**, for findings that do not depend on the lines before. -/
theorem Trails.checkLine (h : Trails F l m) (hpq : p.DifferInSkipLine q) (hF : IsSteady F)
    (here : Place) : Trails F (l.checkLine p here) (m.checkLine q here) := by
  obtain ⟨hfile, hskip⟩ := skips_checkLine q here m
  refine ⟨hfile.trans (h.skipFile.trans (skips_checkLine p here l).1.symm), hskip ▸ h.skipLine, ?_⟩
  have hsteady : steadyComplaints q here = steadyComplaints p here := by
    unfold steadyComplaints Check.findTrailingBlank Check.findLongLine Settings.param
    rw [hpq.whenActive_eq (by decide), hpq.whenActive_eq (by decide), hpq.params (by decide)]
  rw [kept_checkLine hF, kept_checkLine hF, hsteady]
  refine List.Sublist.append ?_ h.warnings
  cases hl : l.isChecked here.line with
  | false => exact List.nil_sublist _
  | true => simp [h.isChecked _ hl]

theorem Trails.next (h : Trails F l m) (hpq : p.DifferInSkipLine q) (hF : IsSteady F)
    (here : Place) (o : Outline) : Trails F (l.next p x here o) (m.next q x here o) := by
  by_cases hx : x.role = .lineEnd
  · have hshift :
        Trails F { l with shift := l.shift + x.shift } { m with shift := m.shift + x.shift } :=
      ⟨h.skipFile, h.skipLine, h.warnings⟩
    unfold Ledger.next
    split
    · exact h
    · rw [hpq.droppedComma]
      refine Trails.warn ?_ _ _
      unfold takeIn
      rw [hx, hpq.missingComma]
      exact (hshift.checkLine hpq hF _).warn _ _
  · exact h.next_of_inline hpq hx here o

end Ledger

namespace Reading

variable {p q : Profile} {F : Finding → Bool} {text : List Char} {r r' s s' : Reading}

/-- Two readings of the same lexemes stand at the same places with the same outlines, so a relation
of ledgers that each lexeme keeps is kept. -/
theorem forM_beside (hlax : q.isLax = p.isLax) {R : Ledger → Ledger → Prop} (xs : List Lexeme)
    (hstep : ∀ x ∈ xs, ∀ here o l m, R l m → R (l.next p x here o) (m.next q x here o))
    (hplace : s.place = r.place) (hout : s.outline = r.outline) (hR : R r.ledger s.ledger)
    (h : xs.forM (readLexeme p) r = .ok () r') (h' : xs.forM (readLexeme q) s = .ok () s') :
    s'.place = r'.place ∧ s'.outline = r'.outline ∧ R r'.ledger s'.ledger := by
  induction xs generalizing r s with
  | nil =>
    cases h
    cases h'
    exact ⟨hplace, hout, hR⟩
  | cons x xs ih =>
    obtain ⟨⟨⟩, r₁, hone, hrest⟩ := bind_ok h
    obtain ⟨⟨⟩, s₁, hone', hrest'⟩ := bind_ok h'
    refine ih (fun y hy => hstep y (List.mem_cons_of_mem _ hy)) ?_ ?_ ?_ hrest hrest'
    · rw [place_readLexeme hone, place_readLexeme hone', hplace]
    · rw [(readLexeme_ok hone).1, (readLexeme_ok hone').1, hout, hlax]
    · rw [ledger_readLexeme hone, ledger_readLexeme hone', hplace, hout]
      exact hstep x List.mem_cons_self _ _ _ _ hR

/-- **Findings that do not depend on the lines before** are never made because a line is skipped. -/
theorem trails_read (hpq : p.DifferInSkipLine q) (hF : Ledger.IsSteady F)
    (h : (read p text).run fresh = .ok () r) (h' : (read q text).run fresh = .ok () r') :
    Ledger.Trails F r.ledger r'.ledger := by
  obtain ⟨⟨⟩, s, hlex, hfinish⟩ := bind_ok
    (x := (scan text).1.forM (readLexeme p)) (s := fresh.start text) h
  obtain ⟨⟨⟩, t, hlex', hfinish'⟩ := bind_ok
    (x := (scan text).1.forM (readLexeme q)) (s := fresh.start text) h'
  have hstart : Ledger.Trails F (fresh.start text).ledger (fresh.start text).ledger :=
    ⟨rfl, fun n hn => (by cases hn), List.Sublist.refl _⟩
  obtain ⟨hplace, -, htrails⟩ := forM_beside (R := Ledger.Trails F) hpq.isLax (scan text).1
    (fun x _ here o l m hlm => hlm.next hpq hF here o) rfl rfl hstart hlex hlex'
  rw [ledger_finish hfinish, ledger_finish hfinish', hplace]
  exact htrails.checkLine hpq hF _

end Reading

end BrightLint
