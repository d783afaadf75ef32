import BrightLint.Proofs.ReadingOutcome

/-!
Reading line by line. Where no bracket is open at the end of a text, a line feed and a second text
can follow: the tokens of the whole are those of the first text and then those of the second,
further down by the lines of the first. The second part looks back at the latest tokens, at the ends
of lines and at brackets that close, but it finds those that it finds alone. What else the first
text has left behind, such as an open function, decides where statements end and has no bearing on
the tokens.

* `Outline.after`: what lexemes do to an outline
* `Outline.Continues`: an outline like another, with older tokens below
* `Outline.Continues.next`, `Outline.Continues.after`: this is kept by lexemes
* `Settings.IsQuiet`: settings under which no style check is active
* `Reading.read_lineFeed`: the tokens of two texts with a line feed between them
-/

namespace BrightLint

/-- A token some lines further down. -/
def Token.down (m : Nat) (t : Token) : Token := { t with line := t.line.map (· + m) }

namespace Outline

/-! ### Lexemes one after the other -/

/-- What lexemes do. -/
def after (lax : Bool) (xs : List Lexeme) (o : Outline) : Outline :=
  xs.foldl (fun o x => o.next lax x) o

theorem after_append (lax : Bool) (xs ys : List Lexeme) (o : Outline) :
    o.after lax (xs ++ ys) = (o.after lax xs).after lax ys := List.foldl_append

theorem faltersIn_append (xs ys : List Lexeme) (o : Outline) :
    o.faltersIn (xs ++ ys) = (o.faltersIn xs || (o.after false xs).faltersIn ys) := by
  induction xs generalizing o with
  | nil => rfl
  | cons x xs ih =>
    rw [List.cons_append, faltersIn, ih, faltersIn, Bool.or_assoc]
    rfl

/-! ### Older tokens -/

/-- The same brackets are open, and the tokens are the same above some older ones, but further
down. -/
structure Continues (older : List Token) (m : Nat) (o o' : Outline) : Prop where
  tokens : o'.tokens = o.tokens.map (Token.down m) ++ older
  line : o'.line = o.line + m
  openCurly : o'.openCurly = o.openCurly
  openSquare : o'.openSquare = o.openSquare
  inObject : o'.inObject = o.inObject

namespace Continues

variable {older : List Token} {m : Nat} {o o' : Outline}

theorem turnTo (h : o.Continues older m o') (t : Topic) :
    (o.turnTo t).Continues older m (o'.turnTo t) :=
  ⟨h.tokens, h.line, h.openCurly, h.openSquare, h.inObject⟩

theorem settle (h : o.Continues older m o') : o.settle.Continues older m o'.settle := by
  unfold Outline.settle
  split <;> split <;> exact ⟨h.tokens, h.line, h.openCurly, h.openSquare, h.inObject⟩

theorem push (h : o.Continues older m o') (t : Token) :
    (o.push { t with line := some o.line }).Continues older m
      (o'.push { t with line := some o'.line }) := by
  refine ⟨?_, h.line, h.openCurly, h.openSquare, h.inObject⟩
  simp [Outline.push, h.tokens, h.line, Token.down]

theorem countFunction (h : o.Continues older m o') (k : Kind) :
    (o.countFunction k).Continues older m (o'.countFunction k) := by
  unfold Outline.countFunction
  by_cases hzero : o.openCurly = 0
  · rw [if_pos hzero, if_pos (h.openCurly.trans hzero)]
    exact h
  · rw [if_neg hzero, if_neg (h.openCurly ▸ hzero)]
    split
    · exact ⟨h.tokens, h.line, h.openCurly, h.openSquare, congrArg (· + 1) h.inObject⟩
    · exact ⟨h.tokens, h.line, h.openCurly, h.openSquare, congrArg (· - 1) h.inObject⟩
    · exact h

theorem addToken (h : o.Continues older m o') (x : Lexeme) :
    (o.addToken x).Continues older m (o'.addToken x) := by
  unfold Outline.addToken
  split
  · exact h.push _
  · exact h

/-! ### The end of a line -/

/-- Where a token is missing, it is missing without the older ones. -/
theorem missesToken (h : o.Continues older m o') (ho : o.missesToken = false) :
    o'.missesToken = false := by
  unfold Outline.missesToken at ho ⊢
  rw [h.openCurly, h.openSquare, h.inObject]
  cases htokens : o.tokens with
  | nil =>
    rw [htokens, List.isEmpty_nil, Bool.and_true] at ho
    rw [ho, Bool.false_and]
  | cons t ts =>
    rw [h.tokens, htokens]
    exact Bool.and_false _

/-- The latest token is looked at only if it is not one of the older ones. -/
theorem wantsComma (h : o.Continues older m o') (ho : o.missesToken = false) :
    o'.wantsComma = o.wantsComma := by
  unfold Outline.missesToken at ho
  unfold Outline.wantsComma
  rw [h.openCurly, h.openSquare, h.inObject]
  cases htokens : o.tokens with
  | nil =>
    rw [htokens, List.isEmpty_nil, Bool.and_true] at ho
    rw [ho, Bool.false_and, Bool.false_and]
  | cons t ts =>
    rw [h.tokens, htokens]
    rfl

theorem endLine (h : o.Continues older m o') (ho : o.missesToken = false) :
    o.endLine.Continues older m o'.endLine := by
  have hended : { o with statementEnded := true }.Continues older m
      { o' with statementEnded := true } :=
    ⟨h.tokens, h.line, h.openCurly, h.openSquare, h.inObject⟩
  have hcomma : ({ o with statementEnded := true }.addComma).Continues older m
      ({ o' with statementEnded := true }.addComma) := by
    unfold addComma
    rw [hended.wantsComma ho]
    split
    · exact hended.push (.addedComma 0)
    · exact hended
  unfold Outline.endLine
  refine ⟨hcomma.tokens, ?_, hcomma.openCurly, hcomma.openSquare, hcomma.inObject⟩
  exact (congrArg (· + 1) hcomma.line).trans (Nat.add_right_comm _ _ _)

theorem read (h : o.Continues older m o') {x : Lexeme}
    (hx : x.kind = .newLine → o.missesToken = false) :
    (o.read x).Continues older m (o'.read x) := by
  unfold Outline.read
  cases hrole : x.role with
  | lineEnd => exact (h.turnTo _).endLine (hx (x.kind_of_lineEnd hrole))
  | directive command => exact h.turnTo _
  | word => exact ((h.turnTo _).countFunction _).addToken x

/-! ### Brackets -/

/-- The token before the latest is looked at only if it is not one of the older ones. -/
theorem dropComma (h : o.Continues older m o') (ho : ¬ o.tokens.length < 2) :
    o.dropComma.Continues older m o'.dropComma := by
  rcases htokens : o.tokens with _ | ⟨t, _ | ⟨u, ts⟩⟩
  · simp [htokens] at ho
  · simp [htokens] at ho
  have hends : o'.endsInComma = o.endsInComma := by
    unfold endsInComma
    rw [h.tokens, htokens]
    rfl
  unfold Outline.dropComma
  rw [hends]
  split
  · refine ⟨?_, h.line, h.openCurly, h.openSquare, h.inObject⟩
    simp [h.tokens, htokens]
  · exact h

theorem applyBoundary (h : o.Continues older m o') {b : Boundary}
    (hb : b.isClosing = true → ¬ o.tokens.length < 2) :
    (Outline.applyBoundary false b o).Continues older m (Outline.applyBoundary false b o') := by
  cases b with
  | statementEnd => exact ⟨h.tokens, h.line, h.openCurly, h.openSquare, h.inObject⟩
  | openCurly =>
    exact ⟨h.tokens, h.line, congrArg (· + 1) h.openCurly, h.openSquare, h.inObject⟩
  | closeCurly =>
    obtain ⟨ht, hl, hc, hs, hi⟩ := h.dropComma (hb rfl)
    exact ⟨ht, hl, congrArg (· - 1) hc, hs, hi⟩
  | openSquare =>
    exact ⟨h.tokens, h.line, h.openCurly, congrArg (· + 1) h.openSquare, h.inObject⟩
  | closeSquare =>
    obtain ⟨ht, hl, hc, hs, hi⟩ := h.dropComma (hb rfl)
    exact ⟨ht, hl, hc, congrArg (· - 1) hs, hi⟩
  | openFunction => exact ⟨h.tokens, h.line, h.openCurly, h.openSquare, h.inObject⟩
  | closeFunction => exact ⟨h.tokens, h.line, h.openCurly, h.openSquare, h.inObject⟩

theorem closesTooSoon (h : o.Continues older m o') (htopic : o'.topic = o.topic)
    (ho : o.closesTooSoon = false) : o'.closesTooSoon = false := by
  unfold Outline.closesTooSoon at ho ⊢
  rw [htopic]
  rcases Bool.and_eq_false_iff.1 ho with hb | hlen
  · rw [hb, Bool.false_and]
  · have hmore : ¬ o'.tokens.length < 2 := by
      have := of_decide_eq_false hlen
      rw [h.tokens, List.length_append, List.length_map]
      omega
    rw [decide_eq_false hmore, Bool.and_false]

theorem bound (h : o.Continues older m o') (htopic : o'.topic = o.topic)
    (ho : o.closesTooSoon = false) : (o.bound false).Continues older m (o'.bound false) := by
  cases hb : o.topic.bind Topic.boundary? with
  | none =>
    rw [bound_of_none hb, bound_of_none (htopic ▸ hb)]
    exact h.settle
  | some b =>
    rw [bound_of_some hb, bound_of_some (htopic ▸ hb)]
    refine (h.applyBoundary fun hclosing => ?_).settle
    unfold Outline.closesTooSoon at ho
    rw [hb, Option.any_some, hclosing, Bool.true_and] at ho
    exact of_decide_eq_false ho

/-! ### Lexemes -/

/-- **A lexeme** that does not look back too far does the same above older tokens. -/
theorem next (h : o.Continues older m o') {x : Lexeme} (hx : o.falters x = false) :
    (o.next false x).Continues older m (o'.next false x) ∧ o'.falters x = false := by
  unfold Outline.falters at hx ⊢
  have hbegin : ∀ {o₁ o₁' : Outline} (b b' : Bool), o₁.Continues older m o₁' →
      (if b then o₁.beginStatement else o₁).Continues older m
        (if b' then o₁'.beginStatement else o₁') := by
    intro o₁ o₁' b b' h₁
    split <;> split <;> exact ⟨h₁.tokens, h₁.line, h₁.openCurly, h₁.openSquare, h₁.inObject⟩
  refine ⟨?_, ?_⟩
  · refine hbegin _ _ ?_
    unfold advance
    split
    · exact h
    · next hblank =>
      simp only [bne_iff_ne.2 hblank, Bool.true_and, Bool.or_eq_false_iff, Bool.and_eq_false_iff,
        beq_eq_false_iff_ne] at hx
      refine (h.read fun hk => hx.1.resolve_left (absurd hk)).bound ?_ hx.2
      rw [topic_read, topic_read]
  · by_cases hblank : x.kind = .blank
    · rw [hblank]
      rfl
    · simp only [bne_iff_ne.2 hblank, Bool.true_and, Bool.or_eq_false_iff, Bool.and_eq_false_iff,
        beq_eq_false_iff_ne] at hx ⊢
      refine ⟨hx.1.imp_right h.missesToken, ?_⟩
      refine (h.read fun hk => hx.1.resolve_left (absurd hk)).closesTooSoon ?_ hx.2
      rw [topic_read, topic_read]

/-- **Lexemes** none of which looks back too far do the same above older tokens. -/
theorem after (h : o.Continues older m o') {xs : List Lexeme} (hxs : o.faltersIn xs = false) :
    (o.after false xs).Continues older m (o'.after false xs) ∧ o'.faltersIn xs = false := by
  induction xs generalizing o o' with
  | nil => exact ⟨h, rfl⟩
  | cons x xs ih =>
    obtain ⟨hx, hxs⟩ := Bool.or_eq_false_iff.1 hxs
    obtain ⟨hnext, hfalters⟩ := h.next hx
    obtain ⟨hafter, hrest⟩ := ih hnext hxs
    exact ⟨hafter, Bool.or_eq_false_iff.2 ⟨hfalters, hrest⟩⟩

end Continues

end Outline

/-! ### Settings without style checks -/

/-- No style check is active. What is to be skipped may be. -/
def Settings.IsQuiet (s : Settings) : Prop :=
  ∀ c, c ≠ .skipLine → c ≠ .skipFile → s.isActive c = .ok false

theorem whenActive_of_inactive {α : Type} {s : Settings} {c : Check}
    (h : s.isActive c = .ok false) (body : Except Fault (Option α)) :
    whenActive s c body = .ok none := by
  unfold whenActive
  rw [h]
  rfl

theorem whenActive_of_active {α : Type} {s : Settings} {c : Check} (h : s.isActive c = .ok true)
    (body : Except Fault (Option α)) : whenActive s c body = body := by
  unfold whenActive
  rw [h]
  rfl

/-- A check that is not made gives an answer. -/
theorem Settings.IsQuiet.answers {p : Profile} (h : p.settings.IsQuiet) :
    p.Answers fun _ => False where
  longLine n := ⟨_, whenActive_of_inactive (h .lineLength (by decide) (by decide)) _⟩
  emptyLines n := ⟨_, whenActive_of_inactive (h .emptyLines (by decide) (by decide)) _⟩
  trailingBlank line := ⟨_, whenActive_of_inactive (h .trailingBlank (by decide) (by decide)) _⟩
  tracing := ⟨_, whenActive_of_inactive (h .tracing (by decide) (by decide)) _⟩
  missingComma := ⟨_, whenActive_of_inactive (h .missingComma (by decide) (by decide)) _⟩
  trailingComma := ⟨_, whenActive_of_inactive (h .trailingComma (by decide) (by decide)) _⟩
  operatorSpacing text place op :=
    ⟨_, whenActive_of_inactive (h .operatorSpacing (by decide) (by decide)) _⟩
  declarationSpacing text := by
    unfold Check.findDeclarationSpacing
    rw [h .declarationSpacing (by decide) (by decide)]
    exact ⟨none, rfl⟩
  comment text := ⟨_, whenActive_of_inactive (h .comment (by decide) (by decide)) _⟩
  spelling text b := by
    unfold Check.findSpelling
    rw [h .spelling (by decide) (by decide)]
    exact ⟨(none, []), rfl⟩
  indentation level line shift := by
    unfold Check.findIndentation
    rw [h .indentation (by decide) (by decide)]
    exact .inl ⟨none, rfl⟩
  steep_mono _ h := h

namespace Reading

variable {p : Profile} {text : List Char} {r : Reading}

/-- Lexemes that are read without a fault change the outline in one way only. -/
theorem outline_readLexemes {xs : List Lexeme} {r r' : Reading}
    (h : xs.forM (readLexeme p) r = .ok () r') : r'.outline = r.outline.after p.isLax xs := by
  induction xs generalizing r with
  | nil =>
    cases h
    rfl
  | cons x xs ih =>
    obtain ⟨⟨⟩, r₁, hone, hrest⟩ := bind_ok h
    rw [ih hrest, (readLexeme_ok hone).1]
    rfl

/-- A reading without problems has cut its text up to the end. -/
theorem problems_eq_nil_iff (h : (read p text).run fresh = .ok () r) :
    r.problems = [] ↔ (scan text).2 = [] := by
  obtain ⟨⟨⟩, r₁, hlex, hfinish⟩ := bind_ok
    (x := (scan text).1.forM (readLexeme p)) (s := fresh.start text) h
  have hclean := (StandsAfter.readLexemes (List.append_nil _).symm hlex).problems
  rw [(finish_ok hfinish).2.2]
  cases (scan text).2 <;> simp [hclean, recordUnmatched]

/-- What a reading of a whole text has come to. -/
theorem outline_read (h : (read p text).run fresh = .ok () r) (hend : (scan text).2 = []) :
    (∃ r₁, (scan text).1.forM (readLexeme p) (fresh.start text) = .ok () r₁) ∧
      r.outline = fresh.outline.after p.isLax (scan text).1 ∧ r.line = 1 + text.count '\n' := by
  obtain ⟨⟨⟩, r₁, hlex, hfinish⟩ := bind_ok
    (x := (scan text).1.forM (readLexeme p)) (s := fresh.start text) h
  have hleaves := leaves_finish p (scan text).2 r₁
  rw [hfinish, hend] at hleaves
  have hout : r.outline = r₁.outline := hleaves
  refine ⟨⟨r₁, hlex⟩, hout.trans (outline_readLexemes (r := fresh.start text) hlex), ?_⟩
  have hline := (StandsAfter.readLexemes (List.append_nil _).symm hlex).line
  rw [joined_of_scan hend] at hline
  exact (congrArg Outline.line hout).trans hline

/-- **Two texts with a line feed between them**, if no style check is active. If both can be read by
themselves, and at the end of the first no bracket is open, nor a function inside an object, then
the two together can be read. The tokens are those of the first and then those of the second,
further down by the lines of the first. -/
theorem read_lineFeed (p : Profile) (hp : p.settings.IsQuiet) (t₁ t₂ : List Char) (r₁ r₂ : Reading)
    (h₁ : (read p t₁).run fresh = .ok () r₁) (hproblems₁ : r₁.problems = [])
    (hcurly : r₁.openCurly = 0) (hsquare : r₁.openSquare = 0) (hobject : r₁.inObject = 0)
    (h₂ : (read p t₂).run fresh = .ok () r₂) (hproblems₂ : r₂.problems = []) :
    ∃ r, (read p (t₁ ++ '\n' :: t₂)).run fresh = .ok () r ∧ r.problems = [] ∧
      r.allTokens = r₁.allTokens ++ r₂.allTokens.map (Token.down (1 + t₁.count '\n')) := by
  have hanswers := hp.answers
  have hend₁ := (problems_eq_nil_iff h₁).1 hproblems₁
  have hend₂ := (problems_eq_nil_iff h₂).1 hproblems₂
  obtain ⟨⟨_, hlex₁⟩, hout₁, hline⟩ := outline_read h₁ hend₁
  obtain ⟨⟨_, hlex₂⟩, hout₂, -⟩ := outline_read h₂ hend₂
  rw [hanswers.isLax] at hout₁ hout₂
  have hscan := scan_line t₁ t₂
  rw [if_pos hend₁] at hscan
  -- before the line feed the first text is like an empty one, with older tokens below
  have hbefore : { fresh.outline with line := 0 }.Continues r₁.tokens r₁.line r₁.outline :=
    ⟨rfl, (Nat.zero_add _).symm, hcurly, hsquare, hobject⟩
  obtain ⟨hafter, hfalters⟩ := hbefore.next (x := .lineFeed) rfl
  have hstart : fresh.outline.Continues r₁.tokens r₁.line (r₁.outline.next false .lineFeed) :=
    ⟨hafter.tokens, hafter.line, hafter.openCurly, hafter.openSquare, hafter.inObject⟩
  obtain ⟨hwhole, hfalters₂⟩ := hstart.after (falters_of_ok hanswers h₂)
  have hreads : Text.falters (t₁ ++ '\n' :: t₂) = false := by
    rw [Text.falters, hscan, Outline.faltersIn_append, ← hout₁, Outline.faltersIn, hfalters,
      hfalters₂, Bool.or_false, Bool.or_false]
    exact falters_of_ok hanswers h₁
  have hheeded : ∀ x ∈ (scan (t₁ ++ '\n' :: t₂)).1, x.IsHeeded p := by
    rw [hscan]
    refine List.forall_mem_append.2 ⟨isHeeded_of_forM hanswers hlex₁, ?_⟩
    exact List.forall_mem_cons.2 ⟨fun _ hrole => (by cases hrole), isHeeded_of_forM hanswers hlex₂⟩
  rcases halts_of_answers hanswers hheeded with ⟨⟨⟩, r, h, -⟩ | ⟨_, -, hlacks⟩ | ⟨_, -, hfalse⟩
  · have hend : (scan (t₁ ++ '\n' :: t₂)).2 = [] := by rw [hscan, hend₂]
    refine ⟨r, h, (problems_eq_nil_iff h).2 hend, ?_⟩
    have htokens : r.tokens = r₂.tokens.map (Token.down r₁.line) ++ r₁.tokens := by
      have hout := (outline_read h hend).2.1
      rw [hanswers.isLax, hscan, Outline.after_append, ← hout₁] at hout
      rw [← outline_tokens r, hout, ← outline_tokens r₂, hout₂]
      exact hwhole.tokens
    unfold allTokens
    rw [htokens, hline, List.reverse_append, List.map_reverse]
  · rw [hreads] at hlacks
    cases hlacks
  · exact hfalse.elim

/-- A function that is still open, and an array over two lines. -/
def openPart : List Char := "function f()\nx = [1\n2,]".toList

/-- An object that closes on a second line. -/
def objectPart : List Char := "y = \x7ba: 1\n\x7d".toList

theorem read_lineFeed_openPart :
    ∃ r₁ r₂ r, (read ⟨.obj [], fun _ => true⟩ openPart).run fresh = .ok () r₁ ∧
      r₁.openFunction = 1 ∧ (read ⟨.obj [], fun _ => true⟩ objectPart).run fresh = .ok () r₂ ∧
      (read ⟨.obj [], fun _ => true⟩ (openPart ++ '\n' :: objectPart)).run fresh = .ok () r ∧
      r.problems = [] ∧ r.allTokens = r₁.allTokens ++ r₂.allTokens.map (Token.down 3) := by
  have hquiet : Settings.IsQuiet (.obj []) := by
    rintro c - -
    cases c <;> rfl
  have hopen : returnsWith ⟨.obj [], fun _ => true⟩ openPart (fun r =>
      r.problems == [] && (r.openCurly == 0 && (r.openSquare == 0 && (r.inObject == 0 &&
        r.openFunction == 1)))) = true := by
    decide +kernel
  have hobject : returnsWith ⟨.obj [], fun _ => true⟩ objectPart (·.problems == []) = true := by
    decide +kernel
  obtain ⟨r₁, h₁, hr₁⟩ := exists_of_returnsWith hopen
  obtain ⟨r₂, h₂, hr₂⟩ := exists_of_returnsWith hobject
  simp only [Bool.and_eq_true, beq_iff_eq] at hr₁ hr₂
  obtain ⟨hproblems, hcurly, hsquare, hinside, hfunction⟩ := hr₁
  obtain ⟨r, h, hr, htokens⟩ := read_lineFeed ⟨.obj [], fun _ => true⟩ hquiet openPart objectPart r₁
    r₂ h₁ hproblems hcurly hsquare hinside h₂ hr₂
  exact ⟨r₁, r₂, r, h₁, hfunction, h₂, h, hr, htokens⟩

end Reading

end BrightLint
