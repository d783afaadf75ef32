import BrightLint.Proofs.ParsingOutcome

/-!
A parsing reads its text as a plain reading does. It checks the statements where the reading counts
them, and this is all that tells them apart after any lexeme, until a statement cannot be parsed:
then the parsing stops, and what the reading has to say about the rest of the text is lost.

* `Parsing.Follows`: a parsing whose reading is a given one, apart from the number of statements
* `Parsing.Follows.readLexeme`: one lexeme, for both
* `Parsing.Follows.readLexemes`: some lexemes, for both
* `Parsing.parse_agrees_with_read`: what a parsing says is the beginning of what the reading says
-/

namespace BrightLint

namespace Reading

open Lint

/-- A lexeme takes back no warning. -/
theorem warnings_readLexeme {p : Profile} {x : Lexeme} {r r' : Reading}
    (h : readLexeme p x r = .ok () r') : r.warnings <:+ r'.warnings := by
  obtain ⟨ws, hws, -⟩ := (readLexeme_ok h).2.warnings
  exact ⟨ws, hws.symm⟩

theorem warnings_readLexemes {p : Profile} {xs : List Lexeme} {r r' : Reading}
    (h : xs.forM (readLexeme p) r = .ok () r') : r.warnings <:+ r'.warnings := by
  refine forM_invariant (I := fun _ t => r.warnings <:+ t.warnings) ?_ (List.suffix_refl _) h
  intro _ x _ t t' _ ht hone
  exact ht.trans (warnings_readLexeme hone)

/-- The end of a text does not depend on how many statements there were. -/
theorem finish_recount {p : Profile} {rest : List Char} {r r' : Reading} (n : Nat)
    (h : finish p rest r = .ok () r') :
    finish p rest (r.recount n) = .ok () (r'.recount (n + 1)) := by
  have hrecord : (if rest.isEmpty then r.recount n else (r.recount n).recordUnmatched) =
      (if rest.isEmpty then r else r.recordUnmatched).recount n := by
    split <;> rfl
  rw [finish_eq] at h ⊢
  obtain ⟨⟨⟩, r₁, hcheck, h⟩ := bind_ok h
  cases h
  have hblind := (steady_checkLine p).blind n (if rest.isEmpty then r else r.recordUnmatched)
  rw [hcheck, ← hrecord] at hblind
  exact bind_of_ok hblind

end Reading

namespace Parsing

open Reading (recount)

/-- A parsing whose reading is the given one, apart from the number of statements. -/
def Follows (r : Reading) (s : Parsing) : Prop := ∃ n, s.reading = r.recount n

section Follows

variable {p : Profile} {r r' : Reading} {s s' : Parsing}

/-- **One lexeme**, for the reading and for the parsing. Only a statement that cannot be parsed
comes between them, and it is found after the lexeme was read. -/
theorem Follows.readLexeme {x : Lexeme} (hs : s.Follows r)
    (h : Reading.readLexeme p x r = .ok () r') :
    (∃ s', readLexeme p x s = .ok () s' ∧ s'.Follows r') ∨
      ∃ f s', readLexeme p x s = .error f s' ∧ s'.reading.warnings = r'.warnings := by
  obtain ⟨n, hn⟩ := hs
  obtain ⟨ended, r₁, hadvance, h⟩ := bind_ok h
  have hread : Reading.advance p x s.reading = .ok ended (r₁.recount n) := by
    rw [hn, Reading.blind_advance p x n r, hadvance]
    rfl
  cases ended with
  | false =>
    cases h
    exact .inl ⟨_, readLexeme_of_false hread, n, rfl⟩
  | true =>
    cases h
    rw [readLexeme_of_true hread]
    cases hcheck : s.bench.check ((r₁.recount n).statement.map Token.symbol) with
    | ok y b =>
      obtain ⟨t, ht, hreading, -⟩ :=
        checkStatement_of_ok (s := { s with reading := r₁.recount n }) hcheck
      refine .inl ⟨_, bind_of_ok ht, n, ?_⟩
      change t.reading.beginStatement = _
      rw [hreading]
      rfl
    | error f b =>
      obtain ⟨t, ht, hreading, -⟩ :=
        checkStatement_of_error (s := { s with reading := r₁.recount n }) hcheck
      refine .inr ⟨f, t, bind_of_error ht, ?_⟩
      rw [hreading]
      rfl

/-- **The lexemes of a text**, for the reading and for the parsing. -/
theorem Follows.readLexemes {xs : List Lexeme} (hs : s.Follows r)
    (h : xs.forM (Reading.readLexeme p) r = .ok () r') :
    (∃ s', xs.forM (Parsing.readLexeme p) s = .ok () s' ∧ s'.Follows r') ∨
      ∃ f s', xs.forM (Parsing.readLexeme p) s = .error f s' ∧
        s'.reading.warnings <:+ r'.warnings := by
  induction xs generalizing s r with
  | nil =>
    cases h
    exact .inl ⟨s, rfl, hs⟩
  | cons x xs ih =>
    obtain ⟨⟨⟩, r₁, hone, hrest⟩ := bind_ok h
    rcases hs.readLexeme hone with ⟨t, ht, hfollows⟩ | ⟨f, t, ht, hwarnings⟩
    · rcases ih hfollows hrest with ⟨s', hs', hend⟩ | ⟨f, s', hs', hend⟩
      · exact .inl ⟨s', (bind_of_ok ht).trans hs', hend⟩
      · exact .inr ⟨f, s', (bind_of_ok ht).trans hs', hend⟩
    · -- what the reading says about the other lexemes comes on top
      refine .inr ⟨f, t, bind_of_error ht, ?_⟩
      rw [hwarnings]
      exact Reading.warnings_readLexemes hrest

/-- The end of a text, for both. A parsing may find a problem there, but it says no more. -/
theorem Follows.close {rest : List Char} (hs : s.Follows r)
    (h : Reading.finish p rest r = .ok () r') (hreturns : Returns (close p rest s) s') :
    s'.reading.tokens = r'.tokens ∧ s'.reading.warnings = r'.warnings ∧
      (s'.reading.problems = [] → r'.problems = []) := by
  obtain ⟨n, hn⟩ := hs
  have hfinish : (Reading.finish p rest).asParse s =
      .ok () { s with reading := r'.recount (n + 1) } :=
    asParse_of_ok (by rw [hn]; exact Reading.finish_recount n h)
  unfold Parsing.close at hreturns
  rw [bind_of_ok hfinish] at hreturns
  rcases hreturns with hok | ⟨stage, t, herror, rfl⟩
  · have hreading : s'.reading = r'.recount (n + 1) := reading_conclude_ok hok
    rw [hreading]
    exact ⟨rfl, rfl, id⟩
  · have hreading : t.reading = r'.recount (n + 1) := (conclude_error herror).2.2
    change t.reading.tokens = _ ∧ t.reading.warnings = _ ∧ _
    rw [hreading]
    exact ⟨rfl, rfl, fun hnone => absurd hnone (problems_recordUnparsed stage t)⟩

end Follows

theorem Returns.warnings_of_error {f : Fault} {s t : Parsing} (h : Returns (.error f t) s) :
    s.reading.warnings = t.reading.warnings := by
  rcases h with h | ⟨stage, u, h, rfl⟩
  · cases h
  · cases h
    rfl

/-- **A parsing agrees with the reading of its text.** If it accepts the text, it has the tokens and
the warnings of the reading, which finds no problem either. In any case the warnings are those with
which the reading begins. -/
theorem parse_agrees_with_read (p : Profile) (text : List Char) (s : Parsing) (r : Reading)
    (hs : (parse p text).run {} = .ok () s) (hr : (Reading.read p text).run .fresh = .ok () r) :
    (s.reading.problems = [] →
      r.problems = [] ∧ s.reading.tokens = r.tokens ∧ s.reading.warnings = r.warnings) ∧
    (r.problems ≠ [] → s.reading.problems ≠ []) ∧
    s.reading.warnings.reverse <+: r.warnings.reverse := by
  have hreturns := parse_returns hs
  obtain ⟨⟨⟩, r₁, hlex, hfinish⟩ := bind_ok
    (x := (scan text).1.forM (Reading.readLexeme p)) (s := Reading.fresh.start text) hr
  have hstart : Follows (Reading.fresh.start text) { reading := Reading.fresh.start text } :=
    ⟨0, rfl⟩
  rcases hstart.readLexemes hlex with ⟨t, ht, hfollows⟩ | ⟨f, t, ht, hsuffix⟩
  · rw [bind_of_ok ht] at hreturns
    obtain ⟨htokens, hwarnings, hproblems⟩ := hfollows.close hfinish hreturns
    refine ⟨fun hnone => ⟨hproblems hnone, htokens, hwarnings⟩, mt hproblems, ?_⟩
    exact hwarnings ▸ List.prefix_refl _
  · rw [bind_of_error ht] at hreturns
    have hproblems := hreturns.problems_of_error
    obtain ⟨ws, hws, -⟩ := (Reading.finish_ok hfinish).1.warnings
    refine ⟨fun hnone => absurd hnone hproblems, fun _ => hproblems, ?_⟩
    rw [List.reverse_prefix, hreturns.warnings_of_error, hws]
    exact hsuffix.trans (List.suffix_append ws r₁.warnings)

/-- A statement that cannot be parsed between two lines that print something. -/
def brokenBetween : List Char := "print 1\nx = = 2\nprint 3\n".toList

theorem parse_agrees_with_read_brokenBetween :
    ∃ s r, (parse sampleProfile brokenBetween).run {} = .ok () s ∧
      (Reading.read sampleProfile brokenBetween).run .fresh = .ok () r ∧
      s.reading.warnings.length = 1 ∧ r.warnings.length = 2 ∧
      s.reading.warnings.reverse <+: r.warnings.reverse := by
  have hparse : returnsWith sampleProfile brokenBetween
      (·.reading.warnings.length == 1) = true := by
    decide +kernel
  have hread : Reading.returnsWith sampleProfile brokenBetween (·.warnings.length == 2) = true := by
    decide +kernel
  obtain ⟨s, hs, hone⟩ := exists_of_returnsWith hparse
  obtain ⟨r, hr, htwo⟩ := Reading.exists_of_returnsWith hread
  exact ⟨s, r, hs, hr, beq_iff_eq.1 hone, beq_iff_eq.1 htwo,
    (parse_agrees_with_read sampleProfile brokenBetween s r hs hr).2.2⟩

end Parsing

end BrightLint
