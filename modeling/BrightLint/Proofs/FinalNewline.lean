import BrightLint.Proofs.ParsingOutcome

/-!
A line feed at the end of a text. Without it the last statement is ended by the end of the text, and
one that cannot be reduced is left to the program as far as it was reduced. With it the statement is
checked as all others are, unless a bracket or a function is still open; then the line feed may
stand for a comma, which the last statement has at its end.

The two texts are compared lexeme by lexeme. As long as the lexemes are the same, so are the
outlines of the readings and the benches, although the texts, and with them the style checks, differ.

* `Parsing.Together`: outcomes that say the same about the code
* `Parsing.together_readLexemes`: the same lexemes give such outcomes
* `Parsing.typesAtLineEnd`: the last statement with the comma that a line feed may stand for
* `Parsing.parse_final_newline`: when a text is accepted with a line feed, when without, and when
  that is the same
-/

namespace BrightLint

/-- What a line feed does: it may stand for a comma, and it ends a statement if nothing is open. -/
theorem Outline.advance_lineFeed (lax : Bool) (o : Outline) :
    o.advance lax .lineFeed = { o.addComma with
      topic := some (.kind .newLine), statementEnded := !o.isInside, line := o.line + 1 } := by
  have hread : o.read .lineFeed = { o.addComma with
      topic := some (.kind .newLine), statementEnded := true, line := o.line + 1 } := by
    change (o.turnTo (.kind .newLine)).endLine = _
    have hwants : { o.turnTo (.kind .newLine) with statementEnded := true }.wantsComma =
        o.wantsComma := rfl
    unfold endLine addComma
    rw [hwants]
    cases o.wantsComma <;> rfl
  have hbound : (o.read .lineFeed).bound lax = (o.read .lineFeed).settle := by
    rw [hread]
    rfl
  have hinside : (o.read .lineFeed).isInside = o.isInside := by
    rw [hread]
    unfold addComma
    cases o.wantsComma <;> rfl
  rw [advance, if_neg (by decide), hbound, settle, hinside, hread]
  cases o.isInside <;> rfl

namespace Parsing

/-! ### Two parsings -/

/-- The parsings do not differ in what the next lexemes depend on. -/
structure Alike (s s' : Parsing) : Prop where
  outline : s'.reading.outline = s.reading.outline
  bench : s'.bench = s.bench
  program : s'.program = s.program

section Together

variable {α β : Type} {R Q : Parsing → Parsing → Prop} {s s' : Parsing}

/-- Two outcomes that go together: the same answer, with parsings related by `R`, or the same fault.
Nothing is said if there is a fault that is no verdict on the code. -/
def Together (R : Parsing → Parsing → Prop) (res res' : EStateM.Result Fault Parsing α) : Prop :=
  (∃ a s s', res = .ok a s ∧ res' = .ok a s' ∧ R s s') ∨
    (∃ f s s', res = .error f s ∧ res' = .error f s') ∨ Upset res ∨ Upset res'

theorem Together.bind {x x' : Parse α} {f f' : α → Parse β} (h : Together R (x s) (x' s'))
    (hf : ∀ a t t', R t t' → Together Q (f a t) (f' a t')) :
    Together Q ((x >>= f) s) ((x' >>= f') s') := by
  rcases h with ⟨a, t, t', hx, hx', hR⟩ | ⟨e, t, t', hx, hx'⟩ | hx | hx'
  · rw [bind_of_ok hx, bind_of_ok hx']
    exact hf a t t' hR
  · exact .inr (.inl ⟨e, t, t', bind_of_error hx, bind_of_error hx'⟩)
  · exact .inr (.inr (.inl hx.bind))
  · exact .inr (.inr (.inr hx'.bind))

theorem together_modify {f : Parsing → Parsing} (h : R (f s) (f s')) :
    Together R ((modify f : Parse Unit) s) ((modify f : Parse Unit) s') :=
  .inl ⟨(), f s, f s', rfl, rfl, h⟩

end Together

section Lexemes

variable {s s' : Parsing}

theorem together_checkStatement (types : List Symbol) (h : s.Alike s') :
    Together Alike (checkStatement types s) (checkStatement types s') := by
  cases hcheck : s.bench.check types with
  | ok x b =>
    obtain ⟨t, ht, hread, hbench, hprogram⟩ := checkStatement_of_ok hcheck
    obtain ⟨t', ht', hread', hbench', hprogram'⟩ := checkStatement_of_ok (h.bench ▸ hcheck)
    refine .inl ⟨(), t, t', ht, ht', ?_, hbench'.trans hbench.symm, ?_⟩
    · rw [hread, hread', h.outline]
    · rw [hprogram, hprogram', h.program]
  | error f b =>
    obtain ⟨t, ht, -⟩ := checkStatement_of_error hcheck
    obtain ⟨t', ht', -⟩ := checkStatement_of_error (h.bench ▸ hcheck)
    exact .inr (.inl ⟨f, t, t', ht, ht'⟩)

theorem together_advance (p : Profile) (x : Lexeme) (h : s.Alike s') :
    Together Alike ((Reading.advance p x).asParse s) ((Reading.advance p x).asParse s') := by
  have hstep := Reading.steps_advance p x s.reading
  have hstep' := Reading.steps_advance p x s'.reading
  cases hr : Reading.advance p x s.reading with
  | error f r =>
    rw [hr] at hstep
    exact .inr (.inr (.inl ⟨f, _, asParse_of_error hr, hstep⟩))
  | ok a r =>
    cases hr' : Reading.advance p x s'.reading with
    | error f r' =>
      rw [hr'] at hstep'
      exact .inr (.inr (.inr ⟨f, _, asParse_of_error hr', hstep'⟩))
    | ok a' r' =>
      rw [hr] at hstep
      rw [hr', h.outline] at hstep'
      have houtline : r'.outline = r.outline := hstep'.trans hstep.symm
      have hended : r'.statementEnded = r.statementEnded := congrArg Outline.statementEnded houtline
      have ha : a' = a := by
        rw [Reading.advance_ended hr, Reading.advance_ended hr', hended]
      subst ha
      exact .inl ⟨a', _, _, asParse_of_ok hr, asParse_of_ok hr', houtline, h.bench, h.program⟩

theorem together_readLexeme (p : Profile) (x : Lexeme) (h : s.Alike s') :
    Together Alike (readLexeme p x s) (readLexeme p x s') := by
  refine (together_advance p x h).bind fun ended t t' ht => ?_
  cases ended with
  | false => exact .inl ⟨(), t, t', rfl, rfl, ht⟩
  | true =>
    have hstatement : t'.reading.statement = t.reading.statement :=
      congrArg Outline.statement ht.outline
    change Together Alike
      ((do checkStatement (t.reading.statement.map Token.symbol); modify _ : Parse Unit) t)
      ((do checkStatement (t'.reading.statement.map Token.symbol); modify _ : Parse Unit) t')
    rw [hstatement]
    refine (together_checkStatement _ ht).bind fun _ u u' hu => ?_
    refine together_modify ⟨?_, hu.bench, hu.program⟩
    rw [outline_beginStatement, outline_beginStatement, hu.outline]

theorem together_readLexemes (p : Profile) (xs : List Lexeme) (h : s.Alike s') :
    Together Alike (xs.forM (readLexeme p) s) (xs.forM (readLexeme p) s') := by
  induction xs generalizing s s' with
  | nil => exact .inl ⟨(), s, s', rfl, rfl, h⟩
  | cons x xs ih => exact (together_readLexeme p x h).bind fun _ t t' ht => ih ht

theorem alike_start (text text' : List Char) :
    Alike { reading := Reading.fresh.start text } { reading := Reading.fresh.start text' } :=
  ⟨rfl, rfl, rfl⟩

end Lexemes

/-! ### The line feed -/

section LineFeed

variable {p : Profile} {s s' t : Parsing}

/-- The symbols of the last statement once a line feed has added the comma that it may stand for. -/
def typesAtLineEnd (s : Parsing) : List Symbol :=
  s.reading.outline.addComma.statement.map Token.symbol

/-- Whether the last statement can be reduced. -/
def reducesLast (s : Parsing) : Bool :=
  match s.bench.check s.lastTypes with
  | .ok .. => true
  | .error .. => false

/-- A comma is wanted only inside a collection. -/
theorem isInside_of_wantsComma {o : Outline} (h : o.wantsComma = true) : o.isInside = true := by
  unfold Outline.wantsComma at h
  unfold Outline.isInside
  simp only [Bool.and_eq_true] at h
  simp [h.1.1]

theorem typesAtLineEnd_of_outside (h : s.reading.isInside = false) :
    s.typesAtLineEnd = s.lastTypes := by
  unfold typesAtLineEnd Outline.addComma
  rw [if_neg]
  · rfl
  · intro hwants
    cases h.symm.trans (isInside_of_wantsComma hwants)

/-- The comma follows the other symbols of the statement. -/
theorem typesAtLineEnd_of_wantsComma (hs : s.Sound) (h : s.reading.outline.wantsComma = true) :
    s.typesAtLineEnd = s.lastTypes ++ [.comma] := by
  unfold typesAtLineEnd Outline.addComma
  rw [if_pos h]
  change ((_ :: s.reading.tokens).reverse.drop s.reading.statementStart).map Token.symbol = _
  rw [List.reverse_cons, List.drop_append_of_le_length (by simpa using hs.start_le),
    List.map_append]
  rfl

/-- A line feed, which ends the statement unless something is open. -/
theorem advance_lineFeed (p : Profile) (r : Reading) :
    (∃ f r', Reading.advance p .lineFeed r = .error f r' ∧ f.isVerdict = false) ∨
      ∃ r', Reading.advance p .lineFeed r = .ok (!r.isInside) r' ∧
        r'.outline.problems = r.problems ∧
        r'.outline.statement = r.outline.addComma.statement := by
  have hstep := Reading.steps_advance p .lineFeed r
  rw [Outline.advance_lineFeed] at hstep
  cases hr : Reading.advance p .lineFeed r with
  | error f r' =>
    rw [hr] at hstep
    exact .inl ⟨f, r', rfl, hstep⟩
  | ok ended r' =>
    rw [hr] at hstep
    have houtline : r'.outline = _ := hstep
    have hended : r'.statementEnded = !r.isInside := congrArg Outline.statementEnded houtline
    have hproblems : r.outline.addComma.problems = r.problems := by
      unfold Outline.addComma
      split <;> rfl
    rw [Reading.advance_ended hr, hended]
    refine .inr ⟨r', rfl, (congrArg Outline.problems houtline).trans hproblems, ?_⟩
    rw [houtline]
    rfl

/-- **What a line feed at the end makes of a parsing**: inside something it goes on with the last
statement, outside the last statement becomes part of the program. -/
theorem readLexeme_lineFeed_cases (p : Profile) (s : Parsing) :
    Upset (readLexeme p .lineFeed s) ∨
    (s.reading.isInside = true ∧ ∃ t, readLexeme p .lineFeed s = .ok () t ∧
      t.reading.problems = s.reading.problems ∧
      t.acceptsLast t.lastTypes = s.acceptsLast s.typesAtLineEnd) ∨
    (s.reading.isInside = false ∧ s.reducesLast = true ∧
      ∃ t, readLexeme p .lineFeed s = .ok () t ∧ t.reading.problems = s.reading.problems ∧
        t.acceptsLast t.lastTypes = s.acceptsLast s.lastTypes) ∨
    (s.reading.isInside = false ∧ s.reducesLast = false ∧
      ∃ f t, readLexeme p .lineFeed s = .error f t) := by
  rcases advance_lineFeed p s.reading with ⟨f, r, hr, hf⟩ | ⟨r, hr, hproblems, hstatement⟩
  · exact .inl (readLexeme_of_upset hr hf)
  cases hinside : s.reading.isInside with
  | true =>
    rw [hinside] at hr
    refine .inr (.inl ⟨rfl, _, readLexeme_of_false hr, hproblems, ?_⟩)
    have htypes : { s with reading := r }.lastTypes = s.typesAtLineEnd :=
      congrArg (List.map Token.symbol) hstatement
    rw [htypes]
    exact acceptsLast_congr rfl rfl _
  | false =>
    rw [hinside] at hr
    have htypes : r.statement.map Token.symbol = s.lastTypes :=
      (congrArg (List.map Token.symbol) hstatement).trans (typesAtLineEnd_of_outside hinside)
    have hread := readLexeme_of_true hr
    rw [htypes] at hread
    unfold reducesLast
    cases hcheck : s.bench.check s.lastTypes with
    | ok x b =>
      obtain ⟨t, ht, hreading, hbench, hprogram⟩ :=
        checkStatement_of_ok (s := { s with reading := r }) hcheck
      refine .inr (.inr (.inl ⟨rfl, rfl, _, hread.trans (bind_of_ok ht), ?_, ?_⟩))
      · change t.reading.problems = _
        rw [hreading]
        exact hproblems
      · -- what follows the statement is empty
        have hempty : { t with reading := t.reading.beginStatement }.lastTypes = [] := by
          change (t.reading.tokens.reverse.drop t.reading.tokens.length).map Token.symbol = []
          simp
        have hlast : s.lastProgram s.lastTypes = .ok (s.program ++ x.toList) := by
          rw [lastProgram, hcheck]
        have hlast' : { t with reading := t.reading.beginStatement }.lastProgram [] =
            .ok (t.program ++ []) := rfl
        rw [hempty, acceptsLast, acceptsLast, hlast, hlast', List.append_nil, hprogram]
    | error f b =>
      obtain ⟨t, ht, -⟩ := checkStatement_of_error (s := { s with reading := r }) hcheck
      exact .inr (.inr (.inr ⟨rfl, rfl, f, t, hread.trans (bind_of_error ht)⟩))

theorem Alike.typesAtLineEnd (h : s.Alike s') : s'.typesAtLineEnd = s.typesAtLineEnd :=
  congrArg (fun o : Outline => o.addComma.statement.map Token.symbol) h.outline

theorem Alike.lastTypes (h : s.Alike s') : s'.lastTypes = s.lastTypes :=
  congrArg (fun o : Outline => o.statement.map Token.symbol) h.outline

theorem Alike.reducesLast (h : s.Alike s') : s'.reducesLast = s.reducesLast := by
  unfold Parsing.reducesLast
  rw [h.bench, h.lastTypes]

/-- **The verdict after a line feed.** -/
theorem problems_iff_of_lineFeed (hnone : s.reading.problems = [])
    (h : Returns ((do readLexeme p .lineFeed; close p [] : Parse Unit) s) t) :
    t.reading.problems = [] ↔ s.acceptsLast s.typesAtLineEnd = true ∧
      (s.reading.isInside = true ∨ s.reducesLast = true) := by
  rcases readLexeme_lineFeed_cases p s with hup | ⟨hinside, u, hu, hproblems, haccepts⟩ |
    ⟨hinside, hreduces, u, hu, hproblems, haccepts⟩ | ⟨hinside, hreduces, f, u, hu⟩
  · exact absurd hup.bind h.not_upset
  · rw [bind_of_ok hu] at h
    rw [h.problems_iff_acceptsLast (hproblems.trans hnone), haccepts]
    simp [hinside]
  · rw [bind_of_ok hu] at h
    rw [h.problems_iff_acceptsLast (hproblems.trans hnone), haccepts,
      typesAtLineEnd_of_outside hinside]
    simp [hreduces]
  · rw [bind_of_error hu] at h
    refine iff_of_false h.problems_of_error ?_
    simp [hinside, hreduces]

theorem readLexemes_lineFeed (p : Profile) (xs : List Lexeme) :
    (do (xs ++ [Lexeme.lineFeed]).forM (readLexeme p); close p [] : Parse Unit) =
      (do xs.forM (readLexeme p); readLexeme p .lineFeed; close p []) := by
  simp only [List.forM_eq_forM, List.forM_append, List.forM_cons, List.forM_nil, bind_assoc,
    pure_bind]

/-- **A text with a line feed at its end**, by what was reached before it. -/
theorem problems_iff_reached_lineFeed {text : List Char} (h : parse p text {} = .ok () s)
    (h' : parse p (text ++ ['\n']) {} = .ok () s') :
    s'.reading.problems = [] ↔ ∃ t, reached? p text = some t ∧
      t.acceptsLast t.typesAtLineEnd = true ∧
        (t.reading.isInside = true ∨ t.reducesLast = true) := by
  have hscan := scan_line text []
  rw [scan_nil] at hscan
  simp only [reached?_eq_some_iff]
  by_cases hrest : (scan text).2 = []
  · rw [if_pos hrest] at hscan
    have hreturns := parse_returns h
    have hreturns' := parse_returns h'
    simp only [hscan, readLexemes_lineFeed] at hreturns'
    rcases together_readLexemes p (scan text).1 (alike_start text (text ++ ['\n'])) with
      ⟨⟨⟩, t, t', ht, ht', hs⟩ | ⟨f, t, t', ht, ht'⟩ | hup | hup
    · rw [bind_of_ok ht'] at hreturns'
      have hnone : t'.reading.problems = [] := (recordsNone_readLexemes p _).of_ok ht'
      have hinside : t'.reading.isInside = t.reading.isInside :=
        congrArg Outline.isInside hs.outline
      rw [problems_iff_of_lineFeed hnone hreturns', hs.typesAtLineEnd, hs.reducesLast, hinside,
        acceptsLast_congr hs.bench hs.program]
      simp [hrest, ht]
    · -- both parsings stop at the same lexeme
      rw [bind_of_error ht'] at hreturns'
      simpa [ht] using hreturns'.problems_of_error
    · exact absurd hup.bind hreturns.not_upset
    · exact absurd hup.bind hreturns'.not_upset
  · rw [if_neg hrest] at hscan
    simpa [hrest] using problems_of_unread h' (by simp [hscan])

/-- When a line feed does not change the verdict on what was reached. -/
theorem sameVerdict_iff (s : Parsing) :
    (s.acceptsLast s.typesAtLineEnd = true ∧ (s.reading.isInside = true ∨ s.reducesLast = true) ↔
      s.acceptsLast s.lastTypes = true) ↔
    (s.reading.isInside = true → s.acceptsLast s.typesAtLineEnd = s.acceptsLast s.lastTypes) ∧
      (s.reading.isInside = false → s.acceptsLast s.lastTypes = true → s.reducesLast = true) := by
  cases hinside : s.reading.isInside with
  | true => cases s.acceptsLast s.typesAtLineEnd <;> simp
  | false => simp [typesAtLineEnd_of_outside hinside]

end LineFeed

/-- **A line feed at the end of a text.** Without it, a text is accepted if it can be read to its end
and there is a program with its last statement, which may be there as far as it was reduced. With
it, the last statement has the comma that the line feed may stand for, and unless a bracket or a
function is still open, it has to be reduced.

So the two verdicts are the same exactly if, inside something, the comma makes no difference, and
outside, a last statement that can not be reduced makes no program. The comma stands at the end of
the last statement; only a directive can bring it about that the statement starts behind it. -/
theorem parse_final_newline (p : Profile) (text : List Char) (s s' : Parsing)
    (h : (parse p text).run {} = .ok () s) (h' : (parse p (text ++ ['\n'])).run {} = .ok () s') :
    (s.reading.problems = [] ↔
      ∃ t, reached? p text = some t ∧ t.acceptsLast t.lastTypes = true) ∧
    (s'.reading.problems = [] ↔ ∃ t, reached? p text = some t ∧
      t.acceptsLast t.typesAtLineEnd = true ∧
        (t.reading.isInside = true ∨ t.reducesLast = true)) ∧
    ((s'.reading.problems = [] ↔ s.reading.problems = []) ↔ ∀ t, reached? p text = some t →
      (t.reading.isInside = true → t.acceptsLast t.typesAtLineEnd = t.acceptsLast t.lastTypes) ∧
      (t.reading.isInside = false → t.acceptsLast t.lastTypes = true → t.reducesLast = true)) ∧
    ∀ t, reached? p text = some t →
      (t.reading.outline.wantsComma = false → t.typesAtLineEnd = t.lastTypes) ∧
      (t.reading.outline.wantsComma = true → (∀ x ∈ (scan text).1, x.kind ≠ .directive) →
        t.typesAtLineEnd = t.lastTypes ++ [.comma]) := by
  have hwithout := problems_iff_reached h
  have hwith := problems_iff_reached_lineFeed h h'
  refine ⟨hwithout, hwith, ?_, fun t ht => ⟨fun hwants => ?_, fun hwants hd => ?_⟩⟩
  · rw [hwith, hwithout]
    cases reached? p text with
    | none => simp
    | some t => simpa using t.sameVerdict_iff
  · rw [typesAtLineEnd, Outline.addComma, if_neg (by simp [hwants])]
    rfl
  · have hlex := (reached?_eq_some_iff.1 ht).2
    have hsound := ((sound_start text).readLexemes
      (fun x hx => ⟨hd x hx, scan_words text x hx⟩) hlex).1
    exact typesAtLineEnd_of_wantsComma hsound hwants

/-- A statement that ends in an open list. -/
def openList : List Char := "x = 1\nreturn [y".toList

theorem parse_final_newline_openList :
    ∃ s s', (parse sampleProfile openList).run {} = .ok () s ∧
      (parse sampleProfile (openList ++ ['\n'])).run {} = .ok () s' ∧
      s.reading.problems = [] ∧ s'.reading.problems ≠ [] := by
  have hreached : (reached? sampleProfile openList).any (fun t =>
      t.acceptsLast t.lastTypes && !t.acceptsLast t.typesAtLineEnd) = true := by
    decide +kernel
  have hends : returnsWith sampleProfile openList (fun _ => true) = true := by
    decide +kernel
  have hends' : returnsWith sampleProfile (openList ++ ['\n']) (fun _ => true) = true := by
    decide +kernel
  obtain ⟨t, ht, hq⟩ := (Option.any_eq_true _ _).1 hreached
  obtain ⟨s, hs, -⟩ := exists_of_returnsWith hends
  obtain ⟨s', hs', -⟩ := exists_of_returnsWith hends'
  obtain ⟨hwithout, hwith, -⟩ := parse_final_newline sampleProfile openList s s' hs hs'
  obtain ⟨haccepts, hrejects⟩ := Bool.and_eq_true_iff.1 hq
  refine ⟨s, s', hs, hs', hwithout.2 ⟨t, ht, haccepts⟩, fun hp => ?_⟩
  obtain ⟨u, hu, hcomma, -⟩ := hwith.1 hp
  cases ht.symm.trans hu
  simp [hcomma] at hrejects

/-- Two loops that end on one line, which is no statement. -/
def doubleEnd : List Char := "while x\nwhile y\nend while end while".toList

/-- A line that is accepted only if a comma follows its list. -/
def wantingComma : List Char := "f(x)\n\"s\" [ end while ) : ( =".toList

/-- A line feed decides the verdict on a last line that cannot be reduced. It may be accepted only
without, outside brackets, and only with it, inside of them. -/
theorem parse_doubleEnd :
    (∃ s, (parse sampleProfile doubleEnd).run {} = .ok () s ∧ s.reading.problems = []) ∧
    (∃ s', (parse sampleProfile (doubleEnd ++ ['\n'])).run {} = .ok () s' ∧
      s'.reading.problems ≠ []) ∧
    (∃ s, (parse sampleProfile wantingComma).run {} = .ok () s ∧ s.reading.problems ≠ []) ∧
    ∃ s', (parse sampleProfile (wantingComma ++ ['\n'])).run {} = .ok () s' ∧
      s'.reading.problems = [] := by
  have hverdicts :
      (returnsWith sampleProfile doubleEnd (·.reading.problems.isEmpty) &&
        returnsWith sampleProfile (doubleEnd ++ ['\n']) (!·.reading.problems.isEmpty)) = true ∧
      (returnsWith sampleProfile wantingComma (!·.reading.problems.isEmpty) &&
        returnsWith sampleProfile (wantingComma ++ ['\n']) (·.reading.problems.isEmpty)) = true := by
    decide +kernel
  simp only [Bool.and_eq_true] at hverdicts
  obtain ⟨⟨haccepted, hrejected⟩, hrejected', haccepted'⟩ := hverdicts
  obtain ⟨s, hs, hp⟩ := exists_of_returnsWith haccepted
  obtain ⟨s', hs', hp'⟩ := exists_of_returnsWith hrejected
  obtain ⟨t, ht, hq⟩ := exists_of_returnsWith hrejected'
  obtain ⟨t', ht', hq'⟩ := exists_of_returnsWith haccepted'
  exact ⟨⟨s, hs, List.isEmpty_iff.1 hp⟩, ⟨s', hs', by simpa using hp'⟩, ⟨t, ht, by simpa using hq⟩,
    t', ht', List.isEmpty_iff.1 hq'⟩

end Parsing

end BrightLint
