import BrightLint.Proofs.LookingBack

/-!
How a reading ends, under settings that give the checks what they ask for. Such settings may set a
limit to the levels at which a line can be checked. The place always lies inside the text, so that
there is a line to check, and the level of a line stays below its number. So there are two reasons
only for which a reading does not return: it looks back at a token where there is none, or the text
has so many lines that a level can go beyond the limit.

* `Lint.Total`: a step without a fault
* `Lint.Halts`: how a step ends
* `Profile.Answers`: settings under which the checks give answers
* `Reading.halts_readLexeme`, `Reading.halts_readLexemes`: how lexemes end
* `Reading.halts_of_answers`: how a whole text ends
-/

namespace BrightLint

/-- A computation that has a value. -/
def Succeeds {α : Type} (v : Except Fault α) : Prop := ∃ a, v = .ok a

theorem succeeds_ok {α : Type} (a : α) : Succeeds (.ok a : Except Fault α) := ⟨a, rfl⟩

theorem Succeeds.map {α β : Type} {v : Except Fault α} (h : Succeeds v) (g : α → β) :
    Succeeds (v.map g) := by
  obtain ⟨a, rfl⟩ := h
  exact succeeds_ok (g a)

/-! ### Total steps -/

namespace Lint

variable {α β : Type}

/-- A step without a fault. -/
def Total (x : Lint α) : Prop := ∀ r, ∃ a r', x r = .ok a r'

theorem total_pure (a : α) : Total (pure a : Lint α) := fun r => ⟨a, r, rfl⟩

theorem total_modify (f : Reading → Reading) : Total (modify f : Lint Unit) :=
  fun r => ⟨(), f r, rfl⟩

theorem Total.bind {x : Lint α} {f : α → Lint β} (hx : Total x) (hf : ∀ a, Total (f a)) :
    Total (x >>= f) := by
  intro r
  obtain ⟨a, r', h⟩ := hx r
  rw [bind_of_ok h]
  exact hf a r'

theorem total_get_bind {f : Reading → Lint α} (hf : ∀ r, Total (f r)) : Total (get >>= f) :=
  fun r => hf r r

/-- Remarks that can all be made. -/
theorem total_make {vs : List (Except Fault Remark)} (h : ∀ v ∈ vs, Succeeds v) :
    Total (make vs) := by
  intro r
  induction vs generalizing r with
  | nil => exact ⟨(), r, rfl⟩
  | cons v vs ih =>
    obtain ⟨⟨m, rfl⟩, hvs⟩ := List.forall_mem_cons.1 h
    exact ih hvs (r.note m)

theorem Total.passMissing {x : Lint Unit} (hx : Total x) : Total (passMissing x) := by
  intro r
  obtain ⟨⟨⟩, r', h⟩ := hx r
  exact ⟨(), r', passMissing_of_ok h⟩

/-! ### How a step ends -/

/-- How a step can end: with a value, or for want of a token if `lacks`, or because a line has to
start with too many tabs, and then `high`. -/
def Halts (lacks : Bool) (high : Prop) (res : EStateM.Result Fault Reading α) : Prop :=
  (∃ a r, res = .ok a r ∧ lacks = false) ∨ (∃ r, res = .error .badIndex r ∧ lacks = true) ∨
    ∃ r, res = .error .tooManyRounds r ∧ high

variable {b c : Bool} {high high' : Prop} {r : Reading}

theorem Halts.mono {res : EStateM.Result Fault Reading α} (h : Halts b high res)
    (himp : high → high') : Halts b high' res := by
  rcases h with h | h | ⟨r', hr', h⟩
  · exact .inl h
  · exact .inr (.inl h)
  · exact .inr (.inr ⟨r', hr', himp h⟩)

theorem Total.halts {x : Lint α} (hx : Total x) : Halts false high (x r) := by
  obtain ⟨a, r', h⟩ := hx r
  exact .inl ⟨a, r', h, rfl⟩

theorem Halts.bind {x : Lint α} {f : α → Lint β} (hx : Halts b high (x r))
    (hf : ∀ a r', x r = .ok a r' → Halts c high (f a r')) : Halts (b || c) high ((x >>= f) r) := by
  rcases hx with ⟨a, r', h, rfl⟩ | ⟨r', h, rfl⟩ | ⟨r', h, hh⟩
  · rw [bind_of_ok h]
    exact hf a r' h
  · exact .inr (.inl ⟨r', bind_of_error h, rfl⟩)
  · exact .inr (.inr ⟨r', bind_of_error h, hh⟩)

theorem Halts.bind_total {x : Lint α} {f : α → Lint β} (hx : Halts b high (x r))
    (hf : ∀ a, Total (f a)) : Halts b high ((x >>= f) r) :=
  Bool.or_false b ▸ hx.bind fun a _ _ => (hf a).halts

theorem Total.halts_bind {x : Lint α} {f : α → Lint β} (hx : Total x)
    (hf : ∀ a r', x r = .ok a r' → Halts c high (f a r')) : Halts c high ((x >>= f) r) :=
  Bool.false_or c ▸ hx.halts.bind hf

/-- A fault that is not a missing key is not passed over. -/
theorem Halts.passMissing {x : Lint Unit} (h : Halts b high (x r)) :
    Halts b high (passMissing x r) := by
  rcases h with ⟨⟨⟩, r', h, hb⟩ | ⟨r', h, hb⟩ | ⟨r', h, hh⟩
  · exact .inl ⟨(), r', passMissing_of_ok h, hb⟩
  · exact .inr (.inl ⟨r', passMissing_of_error h (by decide), hb⟩)
  · exact .inr (.inr ⟨r', passMissing_of_error h (by decide), hh⟩)

end Lint

/-! ### The last line -/

/-- A text that is not empty has a line. -/
theorem Text.linesFrom_ne_nil (part : Option (List Char)) (s : List Char)
    (h : part ≠ none ∨ s ≠ []) : linesFrom part s ≠ [] := by
  fun_induction linesFrom part s with
  | case1 => simp at h
  | case2 => simp
  | case3 => simp
  | case4 => simp
  | case5 part c rest _ _ ih => exact ih (.inl (by simp))

/-- Inside a text there is always a last line. -/
theorem Layout.succeeds_lastLine {l : Layout} (hle : l.position ≤ l.text.length)
    (h0 : 0 ≤ l.position) : Succeeds l.lastLine := by
  unfold lastLine
  split
  · exact succeeds_ok []
  · next hne =>
    have hpos : 0 < Span.place l.text.length l.position := by
      unfold Span.place
      split <;> omega
    have htake : l.text.take (Span.place l.text.length l.position) ≠ [] := by
      rw [Ne, List.take_eq_nil_iff]
      rintro (h | h)
      · omega
      · rw [h] at hle
        exact hne (Int.le_antisymm hle h0)
    have hlines : Text.lines _ ≠ [] := Text.linesFrom_ne_nil none _ (.inr htake)
    rw [Text.lastLine?_eq, List.getLast?_eq_some_getLast hlines]
    exact succeeds_ok _

/-! ### Checks that answer -/

/-- Settings under which every check of a reading gives an answer. The indentation of a line may be
too deep to be checked, and then its level is `steep`. -/
structure Profile.Answers (p : Profile) (steep : Int → Prop) : Prop where
  longLine : ∀ n : Nat, Succeeds (Check.findLongLine p.settings (.int n))
  emptyLines : ∀ n : Nat, Succeeds (Check.findEmptyLines p.settings (.int n))
  trailingBlank : ∀ line, Succeeds (Check.findTrailingBlank p.settings line)
  tracing : Succeeds (Check.findTracing p.settings)
  missingComma : Succeeds (Check.findMissingComma p.settings)
  trailingComma : Succeeds (Check.findTrailingComma p.settings)
  operatorSpacing : ∀ text place op, Succeeds (Check.findOperatorSpacing p.settings text place op)
  declarationSpacing : ∀ text, Succeeds (Check.findDeclarationSpacing p.settings text)
  comment : ∀ text, Succeeds (Check.findComment p.settings text)
  spelling : ∀ text b, Succeeds (Check.findSpelling p.settings p.knows text b)
  indentation : ∀ level line shift, Succeeds (Check.findIndentation p.settings level line shift) ∨
    Check.findIndentation p.settings level line shift = .error .tooManyRounds ∧ steep level
  steep_mono : ∀ {a b : Int}, a ≤ b → steep a → steep b

theorem Profile.Answers.isLax {p : Profile} {steep : Int → Prop} (hp : p.Answers steep) :
    p.isLax = false := by
  obtain ⟨c, hc⟩ := hp.trailingComma
  rw [Profile.isLax, hc]

theorem Profile.Answers.remarks {p : Profile} {steep : Int → Prop} (hp : p.Answers steep) :
    p.AllRemarks Succeeds where
  comment _ := (hp.comment _).map _
  spelling _ _ := (hp.spelling _ _).map _
  operatorSpacing _ _ _ := (hp.operatorSpacing _ _ _).map _
  tracing := hp.tracing.map _
  declarationSpacing _ := (hp.declarationSpacing _).map _
  longLine _ := (hp.longLine _).map _
  emptyLines _ := (hp.emptyLines _).map _
  trailingBlank _ := (hp.trailingBlank _).map _
  missingComma := hp.missingComma.map _
  trailingComma := hp.trailingComma.map _

/-- A lexeme whose command, if it is a directive, can be heeded. -/
def Lexeme.IsHeeded (p : Profile) (x : Lexeme) : Prop := ∀ command, x.role = .directive command →
  Lint.Total (Lint.passMissing (Reading.inspect p (.directive command) x.text))

theorem Kind.inspection?_ne (k : Kind) :
    k.inspection? ≠ some .skipLine ∧ k.inspection? ≠ some .skipFile := by
  cases k <;> decide

namespace Reading

open Lint Check

/-! ### Levels and warnings -/

/-- What the level and the warnings of a reading are like at all times. -/
structure Sound (r : Reading) : Prop where
  level : r.level < r.line
  full : ∀ w ∈ r.warnings, w.complaint.IsFull

theorem Sound.readLexeme {p : Profile} {x : Lexeme} {r r' : Reading} (hr : r.Sound)
    (h : Reading.readLexeme p x r = .ok () r') : r'.Sound := by
  obtain ⟨hout, hpass⟩ := readLexeme_ok h
  have hline : r'.line = if x.kind = .newLine then r.line + 1 else r.line := by
    have hstays := Outline.stays_next p.isLax x r.outline
    rw [← hout] at hstays
    exact hstays.line
  constructor
  · have hlevel := hpass.level
    have hbelow := hr.level
    rw [hline]
    split at hlevel <;> simp only [*, if_true, if_false] <;> omega
  · obtain ⟨ws, hws, hw⟩ := hpass.warnings
    rw [hws]
    intro w hmem
    rcases List.mem_append.1 hmem with hmem | hmem
    · exact (hw w hmem).2
    · exact hr.full w hmem

theorem sound_start (text : List Char) : (fresh.start text).Sound :=
  ⟨Int.zero_lt_one, by simp [start]⟩

theorem sound_readLexemes {p : Profile} {text : List Char} {xs : List Lexeme} {r : Reading}
    (h : xs.forM (readLexeme p) (fresh.start text) = .ok () r) : r.Sound :=
  forM_invariant (I := fun _ r => r.Sound) (fun _ _ _ _ _ _ hr hone => hr.readLexeme hone)
    (sound_start text) h

theorem full_read {p : Profile} {text : List Char} {r : Reading}
    (h : (read p text).run fresh = .ok () r) : ∀ w ∈ r.warnings, w.complaint.IsFull := by
  obtain ⟨⟨⟩, r₁, hlex, hfinish⟩ := bind_ok
    (x := (scan text).1.forM (readLexeme p)) (s := fresh.start text) h
  obtain ⟨ws, hws, hw⟩ := (finish_ok hfinish).1.warnings
  rw [hws]
  intro w hmem
  rcases List.mem_append.1 hmem with hmem | hmem
  · exact (hw w hmem).2
  · exact (sound_readLexemes hlex).full w hmem

section Answers

variable {p : Profile} {steep : Int → Prop} (hp : p.Answers steep)

include hp

/-! ### Style checks -/

/-- What a topic calls for, if it does not ask in vain for something to be skipped. -/
theorem total_inspect {t : Topic} (text : List Char)
    (hline : t.inspection? = some .skipLine → ∀ n : Nat, Succeeds (skippedLine p.settings n))
    (hfile : t.inspection? = some .skipFile → Succeeds (skipsFile p.settings)) :
    Total (inspect p t text) := by
  intro r
  rw [inspect_eq]
  exact total_make (hp.remarks.topic t text (fun h => (hline h r.line).map _)
    fun h => (hfile h).map _) r

theorem total_inspectWord (x : Lexeme) : Total (inspectWord p x) := by
  refine total_get_bind fun r => ?_
  split
  · refine (total_modify _).bind fun _ => Total.passMissing ?_
    exact total_inspect hp x.text (fun h => absurd h x.kind.inspection?_ne.1)
      fun h => absurd h x.kind.inspection?_ne.2
  · exact total_pure ()

/-! ### The end of a line -/

theorem halts_indentRemark (level : Int) (line : List Char) (shift : Int) (r : Reading) :
    Halts false (steep level) (make [indentRemark p level line shift] r) := by
  unfold indentRemark
  rcases hp.indentation level line shift with ⟨v, hv⟩ | ⟨hv, hsteep⟩
  · rw [hv]
    exact .inl ⟨(), _, rfl, rfl⟩
  · rw [hv]
    exact .inr (.inr ⟨r, rfl, hsteep⟩)

theorem halts_checkLine {r : Reading} (h0 : 0 ≤ r.position) (hle : r.position ≤ r.text.length) :
    Halts false (steep r.level) (checkLine p r) := by
  rw [checkLine_eq]
  split
  · rw [lineEndRemarks, make_append, level_counted]
    refine Total.halts_bind (total_make (hp.remarks.line _ fun f hf => ?_)) fun _ r₁ _ =>
      halts_indentRemark hp _ _ _ r₁
    -- the place lies inside the text, so that there is a line
    obtain ⟨line, hline⟩ := Layout.succeeds_lastLine hle h0
    rw [counted_eq] at hf
    cases hline.symm.trans hf
  · exact .inl ⟨(), r, rfl, rfl⟩

theorem halts_addComma (high : Prop) (r : Reading) :
    Halts r.outline.missesToken high (addComma p r) := by
  rw [addComma_eq]
  cases r.outline.missesToken with
  | true => exact .inr (.inl ⟨r, rfl, rfl⟩)
  | false =>
    rw [if_neg Bool.false_ne_true]
    split
    · exact (total_make (List.forall_mem_singleton.2 hp.remarks.missingComma)).halts
    · exact .inl ⟨(), r, rfl, rfl⟩

theorem halts_endLine {r : Reading} (h0 : 0 ≤ r.position) (hle : r.position ≤ r.text.length) :
    Halts r.outline.missesToken (steep r.level)
      (endLine p r) := by
  refine (total_modify _).halts_bind fun _ r₁ h₁ => ?_
  cases h₁
  have hcheck := halts_checkLine hp (r := { r with statementEnded := true }) h0 hle
  rw [← Bool.false_or r.outline.missesToken]
  refine hcheck.bind fun _ r₂ h₂ => ?_
  have hkept := keeps_checkLine p { r with statementEnded := true }
  rw [h₂] at hkept
  have hmisses : r₂.outline.missesToken = r.outline.missesToken := by
    rw [show r₂.outline = _ from hkept]
    rfl
  rw [← hmisses]
  exact (halts_addComma hp _ r₂).bind_total fun _ => total_modify _

/-! ### Brackets -/

theorem halts_applyBoundary (high : Prop) (b : Boundary) (r : Reading) :
    Halts (b.isClosing && decide (r.tokens.length < 2)) high (applyBoundary p b r) := by
  rw [applyBoundary_eq]
  cases b.isClosing && decide (r.tokens.length < 2) with
  | true => exact .inr (.inl ⟨r, rfl, rfl⟩)
  | false =>
    rw [if_neg Bool.false_ne_true]
    exact ((total_make (hp.remarks.boundary b r.outline)).bind fun _ => total_modify _).halts

theorem halts_endLexeme (high : Prop) (r : Reading) :
    Halts r.outline.closesTooSoon high (endLexeme p r) := by
  have hanswer : Total (do return (← get).statementEnded : Lint Bool) :=
    total_get_bind fun _ => total_pure _
  refine Halts.bind_total ?_ fun _ => hanswer
  unfold checkBoundary Outline.closesTooSoon
  rw [get_bind, show r.outline.topic = r.topic from rfl]
  cases r.topic.bind Topic.boundary? with
  | none => exact (total_modify _).halts
  | some b =>
    exact (halts_applyBoundary hp high b r).passMissing.bind_total fun _ => total_modify _

/-! ### A lexeme -/

theorem halts_takeIn {x : Lexeme} {r : Reading} (hx : x.IsHeeded p) (h0 : 0 ≤ r.position)
    (hle : r.position + x.text.length ≤ r.text.length) :
    Halts (x.kind == .newLine && r.outline.missesToken) (steep r.level)
      (takeIn p x r) := by
  refine (total_modify _).halts_bind fun _ r₁ h₁ => (total_modify _).halts_bind fun _ r₂ h₂ => ?_
  cases h₁
  cases h₂
  cases hrole : x.role with
  | lineEnd =>
    rw [x.kind_of_lineEnd hrole]
    exact halts_endLine hp (r := turnTo x (moveOver x r))
      (Int.add_nonneg h0 (Int.natCast_nonneg _)) hle
  | directive command =>
    rw [x.kind_of_directive hrole]
    exact ((total_modify _).bind fun _ => hx command hrole).halts
  | word =>
    have hkind : (x.kind == .newLine) = false := beq_eq_false_iff_ne.2 (kind_of_word hrole)
    have htoken : Total (addToken x) := by
      unfold addToken
      cases x.token? with
      | none => exact total_pure ()
      | some t => exact total_modify _
    rw [hkind]
    exact ((total_modify _).bind fun _ => (total_inspectWord hp x).bind fun _ => htoken).halts

theorem halts_readLexeme {x : Lexeme} {r : Reading} (hx : x.IsHeeded p) (h0 : 0 ≤ r.position)
    (hle : r.position + x.text.length ≤ r.text.length) :
    Halts (r.outline.falters x) (steep r.level)
      (readLexeme p x r) := by
  have hcount : ∀ ended : Bool, Total (if ended then (do
      modify fun r => { r with statements := r.statements + 1 }
      modify beginStatement) else pure () : Lint Unit) := by
    intro ended
    split
    · exact (total_modify _).bind fun _ => total_modify _
    · exact total_pure ()
  refine Halts.bind_total ?_ hcount
  unfold Outline.falters
  by_cases hblank : x.kind = .blank
  · rw [advance_of_blank _ hblank, hblank]
    exact ((total_modify _).bind fun _ => total_pure _).halts
  · rw [advance_of_ne _ hblank, bne_iff_ne.2 hblank, Bool.true_and]
    refine (halts_takeIn hp hx h0 hle).bind fun _ r₁ h₁ => ?_
    have hread := steps_takeIn p x r
    rw [h₁] at hread
    rw [← show r₁.outline = r.outline.read x from hread]
    exact halts_endLexeme hp _ r₁

/-- **The lexemes of a text.** The level stays below the number of the line, so a level that is too
high needs a text with as many lines. -/
theorem halts_readLexemes {text : List Char} {ys zs : List Lexeme} {r : Reading}
    (hzs : ∀ x ∈ zs, x.IsHeeded p) (hsplit : (scan text).1 = ys ++ zs) (hr : r.StandsAfter text ys)
    (hsound : r.Sound) :
    Halts (r.outline.faltersIn zs) (steep (text.count '\n')) (zs.forM (readLexeme p) r) := by
  induction zs generalizing ys r with
  | nil => exact .inl ⟨_, r, rfl, rfl⟩
  | cons x zs ih =>
    obtain ⟨hx, hzs⟩ := List.forall_mem_cons.1 hzs
    obtain ⟨t, ht, hscan⟩ := scan_split hsplit
    have hfirst := first?_of_scan hscan
    have hlength : text.length = (joined ys).length + t.length := by rw [ht, List.length_append]
    have hcount : text.count '\n' = (joined ys).count '\n' + t.count '\n' := by
      rw [ht, List.count_append]
    have hpos := hr.position
    have hle : r.position + x.text.length ≤ r.text.length := by
      have hprefix := (Lexeme.first?_isPrefix hfirst).length_le
      rw [hr.text_eq]
      omega
    have hone := halts_readLexeme hp (r := r) hx (by omega) hle
    refine (hone.mono (hp.steep_mono ?_)).bind fun _ r' h' => ?_
    · have hlevel := hsound.level
      have hline := hr.line
      omega
    · have hnext := (readLexeme_ok h').1
      rw [hp.isLax] at hnext
      rw [← hnext]
      refine ih hzs ?_ (hr.readLexeme (Lexeme.first?_lineFeed_or hfirst) h') (hsound.readLexeme h')
      rw [hsplit, List.append_assoc]
      rfl

/-! ### Whole texts -/

theorem halts_finish {text : List Char} {r : Reading} (hr : r.StandsAfter text (scan text).1)
    (hsound : r.Sound) : Halts false (steep (text.count '\n')) (finish p (scan text).2 r) := by
  have hrests := rests_record (scan text).2 r
  have hjoin := (joined_scan text).1
  have hlength := congrArg List.length hjoin
  have hcount := congrArg (List.count '\n') hjoin
  rw [List.length_append] at hlength
  rw [List.count_append] at hcount
  have hpos := hrests.position.trans hr.position
  rw [finish_eq]
  refine Halts.bind_total ((halts_checkLine hp ?_ ?_).mono (hp.steep_mono ?_))
    fun _ => total_modify _
  · omega
  · rw [hrests.text, hr.text_eq]
    omega
  · have hlevel := hrests.level
    have hbelow := hsound.level
    have hline := hr.line
    omega

/-- **How a reading ends** if every check gives an answer: it returns unless a lexeme looks back at
a token where there is none, or a line stands too deep. -/
theorem halts_of_answers {text : List Char} (hxs : ∀ x ∈ (scan text).1, x.IsHeeded p) :
    Halts (Text.falters text) (steep (text.count '\n')) ((read p text).run fresh) := by
  have hbody : (read p text).run fresh = (do
      (scan text).1.forM (readLexeme p)
      finish p (scan text).2 : Lint Unit) (fresh.start text) := rfl
  rw [hbody, ← Bool.or_false (Text.falters text)]
  have hlexemes := halts_readLexemes hp hxs (List.nil_append (scan text).1).symm
    (standsAfter_start text) (sound_start text)
  refine Halts.bind hlexemes fun _ r h => ?_
  exact halts_finish hp (StandsAfter.readLexemes (List.append_nil _).symm h)
    (sound_readLexemes h)

/-! ### Directives -/

omit hp in
/-- Whether the next line can be skipped is a matter of the settings and not of the line. -/
theorem skippedLine_cases (s : Settings) :
    (∀ n : Nat, Succeeds (skippedLine s n)) ∨ ∃ f, ∀ n : Nat, skippedLine s n = .error f := by
  unfold skippedLine whenActive
  cases s.isActive .skipLine with
  | error f => exact .inr ⟨f, fun _ => rfl⟩
  | ok b =>
    refine .inl fun n => ?_
    cases b <;> exact ⟨_, rfl⟩

/-- Whether a topic can be heeded is a matter of the settings and not of the place. -/
theorem inspect_cases (t : Topic) (text : List Char) :
    Total (inspect p t text) ∨ ∃ f, ∀ r, inspect p t text r = .error f r := by
  by_cases hline : t.inspection? = some .skipLine
  · rcases skippedLine_cases p.settings with hskips | ⟨f, hf⟩
    · exact .inl (total_inspect hp text (fun _ => hskips) fun h => by cases hline.symm.trans h)
    · refine .inr ⟨f, fun r => ?_⟩
      simp only [inspect_eq, Topic.remarks, hline, hf]
      rfl
  by_cases hfile : t.inspection? = some .skipFile
  · cases hskips : skipsFile p.settings with
    | ok v => exact .inl (total_inspect hp text (fun h => absurd h hline) fun _ => ⟨v, hskips⟩)
    | error f =>
      refine .inr ⟨f, fun r => ?_⟩
      simp only [inspect_eq, Topic.remarks, hfile, hskips]
      rfl
  exact .inl (total_inspect hp text (fun h => absurd h hline) fun h => absurd h hfile)

/-- A directive that was read once can be heeded anywhere. -/
theorem isHeeded_of_ok {x : Lexeme} {r r' : Reading} (h : readLexeme p x r = .ok () r') :
    x.IsHeeded p := by
  intro command hrole
  have hblank : x.kind ≠ .blank := by
    rw [x.kind_of_directive hrole]
    decide
  obtain ⟨_, _, hadvance, -⟩ := bind_ok h
  rw [advance_of_ne p hblank] at hadvance
  obtain ⟨_, _, htake, -⟩ := bind_ok hadvance
  unfold takeIn at htake
  rw [hrole] at htake
  obtain ⟨_, _, -, htake⟩ := bind_ok htake
  obtain ⟨_, _, -, htake⟩ := bind_ok htake
  obtain ⟨_, r₁, -, hpass⟩ := bind_ok htake
  rcases inspect_cases hp (.directive command) x.text with htotal | ⟨f, hf⟩
  · exact htotal.passMissing
  · by_cases hkey : f = .missingKey
    · subst hkey
      exact fun s => ⟨(), s, passMissing_of_missingKey (hf s)⟩
    · rw [passMissing_of_error (hf r₁) hkey] at hpass
      cases hpass

theorem isHeeded_of_forM {xs : List Lexeme} {r r' : Reading}
    (h : xs.forM (readLexeme p) r = .ok () r') : ∀ x ∈ xs, x.IsHeeded p := by
  induction xs generalizing r with
  | nil => simp
  | cons x xs ih =>
    obtain ⟨⟨⟩, r₁, hone, hrest⟩ := bind_ok h
    exact List.forall_mem_cons.2 ⟨isHeeded_of_ok hp hone, ih hrest⟩

/-- A text that was read has no lexeme that looks back at a token where there is none. -/
theorem falters_of_ok {text : List Char} {r : Reading} (h : (read p text).run fresh = .ok () r) :
    Text.falters text = false := by
  obtain ⟨⟨⟩, r₁, hlex, -⟩ := bind_ok
    (x := (scan text).1.forM (readLexeme p)) (s := fresh.start text) h
  have hends := halts_of_answers hp (isHeeded_of_forM hp hlex)
  rw [h] at hends
  rcases hends with ⟨_, _, -, hfalters⟩ | ⟨_, herror, -⟩ | ⟨_, herror, -⟩
  · exact hfalters
  · cases herror
  · cases herror

end Answers

end Reading

end BrightLint
