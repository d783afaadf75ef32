import BrightLint.Parsing.Run
import BrightLint.Proofs.BenchSoundness
import BrightLint.Proofs.ReadingTokens
import BrightLint.Settings.Standard

/-!
A text that is accepted is derived by the grammar: the symbol left of the program derives the
tokens of the text, all of them.

The check of a single statement is not sound. It keeps the first symbol of what is left on the
bench, and there may be more. But then this symbol is the first word of the statement
(`Bench.check_spec`), no production of the program grammar mentions a word, and so the program is
not reduced. What is proved of a parsing is therefore conditional: as long as the program is free of
words, it derives the tokens of the statements that have ended.

A comma that ends one statement may still be dropped by a bracket of the next. It is no matter
either, since nothing that ends in a comma is reduced to a list that does not.

* `WordFree`: a list of symbols without words
* `Parsing.Covers`: the conditional statement
* `Parsing.Sound`: what is known in the course of reading a text
* `Parsing.parse_accepts`: a text that is accepted
-/

namespace BrightLint

open Relation

/-! ### Words in a program -/

/-- A list of symbols without words. -/
def WordFree (st : List Symbol) : Prop := ∀ x ∈ st, x ∉ Symbol.words

theorem WordFree.of_prefix {a b : List Symbol} (h : WordFree b) (hab : a <+: b) : WordFree a :=
  fun x hx => h x (hab.subset hx)

/-- The program grammar knows no words. -/
theorem program_wordFree : ∀ p ∈ Grammar.program.productions,
    p.result ∉ Symbol.words ∧ ∀ x ∈ p.rhs, x ∉ Symbol.words := by
  decide +kernel

theorem WordFree.of_reduces {a b : List Symbol} (hb : WordFree b)
    (h : Grammar.program.Reduces a b) : WordFree a := by
  obtain ⟨p, hp, u, v, rfl, rfl⟩ := h
  intro x hx
  rcases List.mem_append.1 hx with hx | hx
  · rcases List.mem_append.1 hx with hx | hx
    · exact hb x (by simp [hx])
    · exact (program_wordFree p hp).2 x hx
  · exact hb x (by simp [hx])

theorem WordFree.of_reflTransGen {a b : List Symbol} (hb : WordFree b)
    (h : ReflTransGen Grammar.program.Reduces a b) : WordFree a := by
  induction h using ReflTransGen.head_induction_on with
  | refl => exact hb
  | head hstep _ ih => exact ih.of_reduces hstep

theorem wordFree_singleton_of_reduces {a : List Symbol} {x : Symbol}
    (h : Grammar.program.Reduces a [x]) : WordFree [x] := by
  obtain ⟨p, hp, u, v, -, he⟩ := h
  obtain ⟨rfl, rfl⟩ : u = [] ∧ p.result = x := by
    cases u with
    | nil => exact ⟨rfl, (List.cons.inj he).1.symm⟩
    | cons y u => simp at he
  simpa [WordFree] using (program_wordFree p hp).1

/-- **A program that is reduced to the end has no words in it.** -/
theorem reduceProgram_of_done {st : List Symbol} (h : (reduceProgram st).done = true) :
    WordFree st ∧ ∃ x, (reduceProgram st).final = [x] ∧ Derives x st := by
  have hsteps := reducesTo_reduceProgram st
  simp only [reduceProgram, Bool.and_eq_true, Bool.not_eq_true', List.isEmpty_eq_false_iff,
    beq_iff_eq, ne_eq, List.map_eq_nil_iff] at h
  obtain ⟨hne, hone⟩ := h
  obtain ⟨x, hx⟩ := List.length_eq_one_iff.1 hone
  have hfinal : (reduceProgram st).final = [x] := hx
  obtain ⟨a, ha⟩ := Grammar.exists_reduces_endOf_run hne
  rw [← endOf_map_reverse, List.reverse_reverse, hx] at ha
  rw [hfinal] at hsteps
  refine ⟨(wordFree_singleton_of_reduces ha).of_reflTransGen hsteps, x, hfinal, ?_⟩
  exact ReflTransGen.mono (fun _ _ h => ⟨.program, h⟩) _ _ hsteps

/-! ### Separators at the end -/

/-- The symbols that stand between others. -/
def Symbol.separators : List Symbol := [.comma, .colon]

theorem productions_end : ∀ n : GrammarName, ∀ p ∈ n.grammar.productions,
    p.rhs ≠ [] ∧ ∀ x ∈ Symbol.separators, p.rhs.getLast? ≠ some x := by
  intro n
  cases n <;> decide +kernel

theorem Reduces.getLast?_separator {a b : List Symbol} {x : Symbol} (h : Reduces a b)
    (hx : x ∈ Symbol.separators) (ha : a.getLast? = some x) : b.getLast? = some x := by
  obtain ⟨n, p, hp, u, v, rfl, rfl⟩ := h
  obtain ⟨hne, hlast⟩ := productions_end n p hp
  rcases v.eq_nil_or_concat' with rfl | ⟨w, y, rfl⟩
  · -- the separator would have to end a right-hand side
    rw [List.append_nil, List.getLast?_append_of_ne_nil _ hne] at ha
    exact absurd ha (hlast x hx)
  · rw [← List.append_assoc, List.getLast?_concat] at ha
    rw [← List.cons_append, ← List.append_assoc, List.getLast?_concat]
    exact ha

/-- **What ends in a separator** still does when it is reduced. -/
theorem ReducesTo.getLast?_separator {a b : List Symbol} {x : Symbol} (h : ReducesTo a b)
    (hx : x ∈ Symbol.separators) (ha : a.getLast? = some x) : b.getLast? = some x := by
  induction h with
  | refl => exact ha
  | tail _ hstep ih => exact hstep.getLast?_separator hx ih

/-! ### Steps of the reading in a parsing -/

theorem asParse_ok {α : Type} {x : Lint α} {s s' : Parsing} {a : α} (h : x.asParse s = .ok a s') :
    ∃ r, x s.reading = .ok a r ∧ s' = { s with reading := r } := by
  unfold Lint.asParse at h
  split at h <;> cases h
  next hr => exact ⟨_, hr, rfl⟩

namespace Parsing

/-! ### One statement -/

/-- Unless words are left in the program, it derives the given symbols, and nothing but a single
symbol was left of the latest statement. -/
def Covers (s : Parsing) (types : List Symbol) : Prop :=
  WordFree s.program → ReducesTo types s.program ∧ s.bench.tokens.length ≤ 1

/-- What a check that ends well does. -/
theorem checkStatement_ok {types : List Symbol} {s s' : Parsing}
    (h : checkStatement types s = .ok () s') :
    ∃ x, s.bench.check types = .ok x s'.bench ∧ s'.program = s.program ++ x.toList ∧
      s'.reading = s.reading ∧ ∃ n, s'.checks.head? = some ⟨types, .ok n⟩ := by
  unfold checkStatement at h
  simp only at h
  split at h
  · next x b hb =>
    cases h
    refine ⟨x, ?_⟩
    unfold record
    split <;> exact ⟨hb, rfl, rfl, _, rfl⟩
  · cases h

/-- **A statement is checked**: what is derived grows by its symbols. -/
theorem covers_checkStatement {before types : List Symbol} {s s' : Parsing} (hs : s.bench.Stable)
    (hw : ∀ x ∈ types, x ∈ Symbol.words) (hc : s.Covers before)
    (h : checkStatement types s = .ok () s') : s'.bench.Stable ∧ s'.Covers (before ++ types) := by
  obtain ⟨x, hcheck, hprog, -, -⟩ := checkStatement_ok h
  obtain ⟨hst, hshape⟩ := Bench.check_spec hs hcheck
  refine ⟨hst, fun hfree => ?_⟩
  rw [hprog] at hfree ⊢
  obtain ⟨hbefore, -⟩ := hc (hfree.of_prefix (List.prefix_append _ _))
  rcases hshape with ⟨rfl, rfl, htok⟩ | ⟨y, rfl, hhead | ⟨htok, hder⟩⟩
  · exact ⟨by simpa using hbefore, by simp [htok]⟩
  · -- the first word of the statement would stand in the program
    exact absurd (hw y (List.mem_of_head? hhead)) (hfree y (by simp))
  · exact ⟨hbefore.append hder, by simp [htok]⟩

/-! ### One lexeme -/

/-- What is known in the course of reading a text. -/
structure Sound (s : Parsing) : Prop where
  stable : s.bench.Stable
  words : ∀ t ∈ s.reading.tokens, t.symbol ∈ Symbol.words
  start_le : s.reading.statementStart ≤ s.reading.tokens.length
  covers : s.Covers ((s.reading.allTokens.take s.reading.statementStart).map Token.symbol)

/-- A token in place of a comma. The comma may be the last token of the statements before, but then
the program ends in a comma as well. -/
theorem Covers.replace_comma {s : Parsing} {c t : Token} {rest : List Token} {n : Nat}
    (h : s.Covers (((c :: rest).reverse.take n).map Token.symbol)) (hc : c.symbol = .comma) :
    s.Covers (((t :: rest).reverse.take n).map Token.symbol) := by
  intro hfree
  obtain ⟨hred, hone⟩ := h hfree
  refine ⟨?_, hone⟩
  rw [List.reverse_cons] at hred ⊢
  rcases Nat.lt_or_ge rest.length n with hlt | hge
  · -- all tokens but the new one belong to earlier statements
    exfalso
    rw [List.take_of_length_le (by simp; omega)] at hred
    have hcomma := hred.getLast?_separator (x := .comma) (by decide) (by simp [hc])
    exact hfree .comma (List.mem_of_getLast? hcomma) (by decide)
  · rw [List.take_append_of_le_length (by simpa using hge)] at hred ⊢
    exact hred

/-- A reading that grows keeps what is known. -/
theorem Sound.of_grows {s : Parsing} {r : Reading} (hs : s.Sound)
    (h : s.reading.outline.Grows r.outline) : Sound { s with reading := r } := by
  obtain ⟨hstart, htok⟩ := h
  simp only [Reading.outline_tokens, Reading.outline_statementStart] at hstart htok
  rcases htok with htok | ⟨t, ht, htok | ⟨c, rest, hc, hold, htok⟩⟩
  · refine ⟨hs.stable, ?_, ?_, ?_⟩ <;> simp only [hstart, htok, Reading.allTokens]
    · exact hs.words
    · exact hs.start_le
    · exact hs.covers
  · refine ⟨hs.stable, ?_, ?_, ?_⟩ <;> simp only [hstart, htok, Reading.allTokens]
    · simpa [ht] using hs.words
    · exact Nat.le_succ_of_le hs.start_le
    · rw [List.reverse_cons, List.take_append_of_le_length (by simpa using hs.start_le)]
      exact hs.covers
  · have hle := hs.start_le
    have hwords := hs.words
    have hcovers := hs.covers
    rw [Reading.allTokens, hold] at hcovers
    rw [hold] at hle hwords
    refine ⟨hs.stable, ?_, ?_, ?_⟩ <;> simp only [hstart, htok, Reading.allTokens]
    · intro u hu
      rcases List.mem_cons.1 hu with rfl | hu
      · exact ht
      · exact hwords u (List.mem_cons_of_mem _ hu)
    · exact hle
    · exact hcovers.replace_comma hc

/-- Once its last statement is checked as well, a parsing covers all tokens. -/
theorem Sound.covers_all {s s' : Parsing} (hs : s.Sound)
    (h : checkStatement (s.reading.statement.map Token.symbol) s = .ok () s') :
    s'.bench.Stable ∧ s'.Covers (s.reading.allTokens.map Token.symbol) := by
  have hw : ∀ x ∈ s.reading.statement.map Token.symbol, x ∈ Symbol.words := by
    intro x hx
    obtain ⟨t, ht, rfl⟩ := List.mem_map.1 hx
    exact hs.words t (List.mem_reverse.1 (List.mem_of_mem_drop ht))
  obtain ⟨hst, hcov⟩ := covers_checkStatement hs.stable hw hs.covers h
  rw [Reading.statement, ← List.map_append, List.take_append_drop] at hcov
  exact ⟨hst, hcov⟩

theorem Sound.beginStatement {s : Parsing} (hst : s.bench.Stable)
    (hw : ∀ t ∈ s.reading.tokens, t.symbol ∈ Symbol.words)
    (hc : s.Covers (s.reading.allTokens.map Token.symbol)) :
    Sound { s with reading := s.reading.beginStatement } := by
  refine ⟨hst, hw, Nat.le_refl _, ?_⟩
  have hall : s.reading.allTokens.take s.reading.tokens.length = s.reading.allTokens :=
    List.take_of_length_le (by simp [Reading.allTokens])
  change s.Covers ((s.reading.allTokens.take s.reading.tokens.length).map Token.symbol)
  rw [hall]
  exact hc

/-- **A lexeme is read.** -/
theorem Sound.readLexeme {p : Profile} {x : Lexeme} {s s' : Parsing} (hs : s.Sound)
    (hx : x.IsPlain) (h : readLexeme p x s = .ok () s') :
    s'.Sound ∧ s.program <+: s'.program := by
  obtain ⟨ended, s₁, hadvance, h⟩ := bind_ok h
  obtain ⟨r, hr, rfl⟩ := asParse_ok hadvance
  have hs₁ := hs.of_grows (Reading.grows_advance hx hr)
  cases ended with
  | false =>
    cases h
    exact ⟨hs₁, List.prefix_rfl⟩
  | true =>
    obtain ⟨_, _, ⟨⟩, h⟩ := bind_ok h
    obtain ⟨⟨⟩, s₂, hcheck, h⟩ := bind_ok h
    cases h
    obtain ⟨x, -, hprog, hread, -⟩ := checkStatement_ok hcheck
    obtain ⟨hst, hcov⟩ := hs₁.covers_all hcheck
    rw [← hread] at hcov
    exact ⟨.beginStatement hst (hread ▸ hs₁.words) hcov, hprog ▸ List.prefix_append _ _⟩

/-- **Lexemes are read**, one after the other. -/
theorem Sound.readLexemes {p : Profile} {xs : List Lexeme} {s s' : Parsing} (hs : s.Sound)
    (hx : ∀ x ∈ xs, x.IsPlain) (h : xs.forM (Parsing.readLexeme p) s = .ok () s') :
    s'.Sound ∧ s.program <+: s'.program := by
  induction xs generalizing s with
  | nil =>
    cases h
    exact ⟨hs, List.prefix_rfl⟩
  | cons x xs ih =>
    obtain ⟨⟨⟩, s₁, hone, h⟩ := bind_ok h
    obtain ⟨hs₁, hpre₁⟩ := hs.readLexeme (hx x List.mem_cons_self) hone
    obtain ⟨hs', hpre⟩ := ih hs₁ (fun y hy => hx y (List.mem_cons_of_mem _ hy)) h
    exact ⟨hs', hpre₁.trans hpre⟩

/-! ### A whole text -/

/-- What a check of the program that ends well does. -/
theorem checkProgram_ok {s s' : Parsing} {b : Bool} (h : checkProgram (layProgram s) = .ok b s') :
    WordFree s.program ∧ (∃ x, s'.program = [x] ∧ Derives x s.program) ∧
      s'.bench.tokens = s.bench.tokens ∧ s'.reading = s.reading ∧ s'.checks = s.checks := by
  have hcurrent : (layProgram s).current = s.program := rfl
  unfold checkProgram at h
  simp only [hcurrent] at h
  split at h
  · next hblock =>
    cases h
    rw [hblock]
    exact ⟨by simp [WordFree]; decide, ⟨.block, hblock, .refl⟩, rfl, rfl, rfl⟩
  · split at h
    · next hdone =>
      cases h
      obtain ⟨hfree, x, hx, hder⟩ := reduceProgram_of_done hdone
      refine ⟨hfree, ⟨x, ?_, hder⟩, ?_⟩
      · exact hx
      · exact ⟨rfl, rfl, rfl⟩
    · cases h

/-- A check that fails leaves the reading and the program as they are. -/
theorem checkStatement_error {types : List Symbol} {s s' : Parsing} {f : Fault}
    (h : checkStatement types s = .error f s') :
    s'.reading = s.reading ∧ s'.program = s.program ∧
      s'.checks.head? = some ⟨types, .error f⟩ := by
  unfold checkStatement at h
  simp only at h
  split at h
  · cases h
  · cases h
    unfold record
    split <;> exact ⟨rfl, rfl, rfl⟩

/-- The last statement is checked, or else the program has grown by what was left of it. -/
theorem checkLast_ok {s s' : Parsing} (h : checkLast s = .ok () s') :
    s'.reading = s.reading ∧ s.program <+: s'.program ∧
      (checkStatement (s.reading.statement.map Token.symbol) s = .ok () s' ∨
        ∃ f, s'.checks.head? = some ⟨s.reading.statement.map Token.symbol, .error f⟩) := by
  rcases tryCatch_ok h with h | ⟨f, s₁, hx, h⟩
  · obtain ⟨x, -, hprog, hread, -⟩ := checkStatement_ok h
    exact ⟨hread, hprog ▸ List.prefix_append _ _, .inl h⟩
  · obtain ⟨hread, hprog, hchecks⟩ := checkStatement_error hx
    cases f with
    | unparsed stage =>
      cases h
      exact ⟨hread, hprog ▸ List.prefix_append _ _, .inr ⟨_, hchecks⟩⟩
    | _ => cases h

/-- A parsing that ends without a problem has come to its end. -/
theorem parse_ok {p : Profile} {text : List Char} {s s' : Parsing} (h : parse p text s = .ok () s')
    (hp : s'.reading.problems = []) :
    ∃ s₁ s₂ b, readText p text s = .ok () s₁ ∧ checkLast s₁ = .ok () s₂ ∧
      checkProgram (layProgram s₂) = .ok b s' := by
  rcases tryCatch_ok h with h | ⟨f, s₁, -, h⟩
  · obtain ⟨⟨⟩, s₁, hread, h⟩ := bind_ok h
    obtain ⟨_, _, ⟨⟩, h⟩ := bind_ok h
    split at h
    · obtain ⟨⟨⟩, s₂, hlast, h⟩ := bind_ok h
      obtain ⟨_, _, ⟨⟩, h⟩ := bind_ok h
      obtain ⟨b, s₃, hprog, h⟩ := bind_ok h
      cases h
      exact ⟨s₁, s₂, b, hread, hlast, hprog⟩
    · next hne =>
      cases h
      simp [hp] at hne
  · -- a fault that is caught becomes a problem
    cases f with
    | unparsed stage =>
      cases h
      simp [recordUnparsed] at hp
    | _ => cases h

/-- Reading a text is reading its lexemes and ending the last line. -/
theorem readText_ok {p : Profile} {text : List Char} {s s' : Parsing}
    (h : readText p text s = .ok () s') :
    ∃ s₁ r, (scan text).1.forM (readLexeme p)
        { s with reading := s.reading.start text, checks := [] } = .ok () s₁ ∧
      s₁.reading.outline.Agrees r.outline ∧ s' = { s₁ with reading := r } := by
  obtain ⟨_, _, ⟨⟩, h⟩ := bind_ok h
  obtain ⟨⟨⟩, s₁, hlex, h⟩ := bind_ok h
  obtain ⟨r, hr, rfl⟩ := asParse_ok h
  exact ⟨s₁, r, hlex, Reading.agrees_finish hr, rfl⟩

theorem sound_start (text : List Char) : Sound { reading := Reading.fresh.start text } :=
  ⟨⟨by simp, Int.le_refl 0⟩, by simp [Reading.start, Reading.fresh], Nat.zero_le _,
    fun _ => ⟨.refl, Nat.zero_le 1⟩⟩

/-- What the first lexemes make of the program is where the program starts. -/
theorem Sound.of_append {p : Profile} {ys zs : List Lexeme} {s s' : Parsing} (hs : s.Sound)
    (hx : ∀ x ∈ ys ++ zs, x.IsPlain)
    (h : (ys ++ zs).forM (Parsing.readLexeme p) s = .ok () s') :
    ∃ s₁, ys.forM (Parsing.readLexeme p) s = .ok () s₁ ∧ s₁.Sound ∧
      s₁.program <+: s'.program := by
  rw [List.forM_eq_forM, List.forM_append] at h
  obtain ⟨⟨⟩, s₁, hfirst, hrest⟩ := bind_ok h
  have hs₁ := (hs.readLexemes (fun x hy => hx x (List.mem_append_left _ hy)) hfirst).1
  have hpre := (hs₁.readLexemes (fun x hz => hx x (List.mem_append_right _ hz)) hrest).2
  exact ⟨s₁, hfirst, hs₁, hpre⟩

/-- **A text that is accepted is derived.** Let a parsing of a text without directives end without a
problem. Then a single symbol was left of every statement on the way; and if the check of the last
statement, which is the latest check that was made, ended well, the one symbol left of the program
derives all tokens of the text. -/
theorem parse_accepts (p : Profile) (text : List Char) (s : Parsing)
    (hd : ∀ x ∈ (scan text).1, x.kind ≠ .directive)
    (h : (parse p text).run {} = .ok () s) (hp : s.reading.problems = []) :
    (∀ ys zs, (scan text).1 = ys ++ zs → ∃ s₁,
      (ys.forM (readLexeme p)).run { reading := Reading.fresh.start text } = .ok () s₁ ∧
        s₁.bench.tokens.length ≤ 1) ∧
    ∃ c, s.checks.head? = some c ∧ c.types = s.reading.statement.map Token.symbol ∧
      ∀ n, c.outcome = .ok n → s.bench.tokens.length ≤ 1 ∧
        ∃ x, s.program = [x] ∧ Derives x (s.reading.allTokens.map Token.symbol) := by
  obtain ⟨s₁, s₂, b, hread, hlast, hprog⟩ := parse_ok h hp
  obtain ⟨s₀, r, hlex, hagree, rfl⟩ := readText_ok hread
  obtain ⟨hfree, ⟨x, hx, hder⟩, hbench, hreading, hchecks⟩ := checkProgram_ok hprog
  have hstart := sound_start text
  have hplain : ∀ x ∈ (scan text).1, x.IsPlain := fun x hx => ⟨hd x hx, scan_words text x hx⟩
  have hs₀ := (hstart.readLexemes hplain hlex).1
  have hs₁ := hs₀.of_grows hagree.grows
  obtain ⟨hsame, hpre, houtcome⟩ := checkLast_ok hlast
  rw [hreading, hchecks, hbench, hx, hsame]
  refine ⟨fun ys zs hsplit => ?_, ?_⟩
  · rw [hsplit] at hplain hlex
    obtain ⟨s₃, hys, hs₃, hpre₃⟩ := hstart.of_append hplain hlex
    exact ⟨s₃, hys, (hs₃.covers (hfree.of_prefix (hpre₃.trans hpre))).2⟩
  · rcases houtcome with hok | ⟨f, hhead⟩
    · obtain ⟨-, -, -, -, n, hhead⟩ := checkStatement_ok hok
      obtain ⟨hred, hone⟩ := (hs₁.covers_all hok).2 hfree
      exact ⟨_, hhead, rfl, fun _ _ => ⟨hone, x, rfl, hred.trans hder⟩⟩
    · refine ⟨_, hhead, rfl, fun n hn => ?_⟩
      cases hn

/-- Whether a text without directives is accepted, with its last statement checked. -/
def isAccepted (p : Profile) (text : List Char) : Bool :=
  (scan text).1.all (·.kind != .directive) &&
    match (parse p text).run {} with
    | .ok () s => s.reading.problems.isEmpty && s.checks.head?.any (·.outcome.isOk)
    | .error .. => false

/-- The latest check ended well. -/
theorem exists_of_head_isOk {s : Parsing} (h : s.checks.head?.any (·.outcome.isOk) = true) :
    ∃ c n, s.checks.head? = some c ∧ c.outcome = .ok n := by
  cases hhead : s.checks.head? with
  | none => simp [hhead] at h
  | some c =>
    rw [hhead, Option.any_some] at h
    cases hout : c.outcome with
    | error f =>
      rw [hout] at h
      cases h
    | ok n => exact ⟨c, n, rfl, hout⟩

theorem exists_of_isAccepted {p : Profile} {text : List Char} (h : isAccepted p text = true) :
    (∀ x ∈ (scan text).1, x.kind ≠ .directive) ∧ ∃ s c n, (parse p text).run {} = .ok () s ∧
      s.reading.problems = [] ∧ s.checks.head? = some c ∧ c.outcome = .ok n := by
  obtain ⟨hd, h⟩ := Bool.and_eq_true_iff.1 h
  refine ⟨by simpa using hd, ?_⟩
  split at h
  · next s hs =>
    obtain ⟨hp, hc⟩ := Bool.and_eq_true_iff.1 h
    obtain ⟨c, n, hhead, hout⟩ := exists_of_head_isOk hc
    exact ⟨s, c, n, hs, List.isEmpty_iff.1 hp, hhead, hout⟩
  · cases h

/-- Two statements; the comma before the last bracket of the first is dropped. -/
def sampleText : List Char := "x = [g(2, y),]\nprint x".toList

def sampleProfile : Profile := ⟨Settings.standard, fun _ => true⟩

theorem parse_accepts_sample :
    (∀ x ∈ (scan sampleText).1, x.kind ≠ .directive) ∧
    ∃ s x, (parse sampleProfile sampleText).run {} = .ok () s ∧ s.reading.problems = [] ∧
      s.bench.tokens.length ≤ 1 ∧ s.program = [x] ∧
      Derives x (s.reading.allTokens.map Token.symbol) := by
  have haccepted : isAccepted sampleProfile sampleText = true := by decide +kernel
  obtain ⟨hd, s, c, n, hs, hp, hc, hok⟩ := exists_of_isAccepted haccepted
  obtain ⟨-, c', hc', -, hder⟩ := parse_accepts sampleProfile sampleText s hd hs hp
  obtain rfl : c = c' := Option.some.inj (hc.symm.trans hc')
  obtain ⟨hone, x, hx, hder⟩ := hder n hok
  exact ⟨hd, s, x, hs, hp, hone, hx, hder⟩

end Parsing

end BrightLint
