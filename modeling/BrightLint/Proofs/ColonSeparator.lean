import BrightLint.Proofs.ParsingOutcome
import BrightLint.Proofs.LineComposition
import BrightLint.Proofs.ScanBreaks
import BrightLint.Proofs.StatementEnds

/-!
A colon between two statements. Like the end of a line it ends a statement, but unlike the end of a
line it has a token, and this token is part of the statement that it ends. No production of the two
grammars ends in a colon, so nothing that the statement is reduced to is free of words, and the
program is never accepted. A colon is harmless only where it is no separator, inside a string.

* `Parsing.Accepts`: texts that are programs
* `Kind.isSimple`: lexemes that leave everything closed
* `scan_colon`: a colon after a text that was cut up to its end
* `Outline.next_colon`: a colon is the last token of the statement that it ends
* `Parsing.parse_colon`: a colon and a line feed in the same place
-/

namespace BrightLint

/-- Whether a kind of lexeme is neither a comment nor opens or closes anything. -/
def Kind.isSimple (k : Kind) : Bool :=
  k != .comment && k != .directive && k.boundary?.all (· == .statementEnd)

theorem Kind.ne_of_isSimple {k : Kind} (h : k.isSimple = true) :
    k ≠ .comment ∧ k ≠ .directive ∧ ∀ b ∈ k.boundary?, b = .statementEnd := by
  simp only [isSimple, Bool.and_eq_true, bne_iff_ne, Option.all_eq_true, beq_iff_eq] at h
  exact ⟨h.1.1, h.1.2, h.2⟩

/-! ### The lexeme -/

/-- A colon. -/
def Lexeme.colon : Lexeme := ⟨[':'], .plain, .colon, .colon, 0⟩

theorem Lexeme.first?_colon (s : List Char) : first? (':' :: s) = some .colon := rfl

/-- **A colon after a text** that was cut up to its end and has no comments. -/
theorem scan_colon {s₁ : List Char} (s₂ : List Char) (hrest : (scan s₁).2 = [])
    (hs₁ : ∀ x ∈ (scan s₁).1, x.kind.isSimple = true) :
    (scan (s₁ ++ ':' :: s₂)).1 = (scan s₁).1 ++ .colon :: (scan s₂).1 := by
  have hjoin := joined_of_scan hrest
  have hscan : (scan (joined (scan s₁).1 ++ [])).1 = (scan s₁).1 ++ [] := by
    rw [List.append_nil, List.append_nil, hjoin]
  have hbreak := scan_break breaks_nil (breaks_colon s₂) (sameBreak_nil_colon s₂) hscan
    fun y hy hkind => by
      obtain ⟨hcomment, hdirective, -⟩ := Kind.ne_of_isSimple (hs₁ y hy)
      exact absurd hkind (not_or_intro hdirective hcomment)
  rw [hjoin] at hbreak
  rw [hbreak, scan_of_some (Lexeme.first?_colon s₂)]
  rfl

/-! ### Outlines -/

namespace Outline

variable {o : Outline} {x : Lexeme}

/-- A simple lexeme opens and closes nothing. -/
theorem isInside_next (lax : Bool) (hx : x.kind.isSimple = true) (o : Outline) :
    (o.next lax x).isInside = o.isInside := by
  have hadvance : (o.advance lax x).isInside = o.isInside := by
    obtain ⟨-, hdirective, hboundary⟩ := Kind.ne_of_isSimple hx
    have hmeans := boundary?_read hdirective o
    unfold advance
    split
    · rfl
    · cases hb : x.kind.boundary? with
      | none => rw [bound_of_none (hmeans.trans hb), isInside_settle, isInside_read]
      | some b =>
        obtain rfl := hboundary b hb
        rw [bound_of_some (hmeans.trans hb), isInside_settle]
        exact isInside_read x o
  unfold next
  split <;> exact hadvance

theorem isInside_after (lax : Bool) {xs : List Lexeme}
    (hxs : ∀ x ∈ xs, x.kind.isSimple = true) (o : Outline) :
    (o.after lax xs).isInside = o.isInside := by
  induction xs generalizing o with
  | nil => rfl
  | cons x xs ih =>
    obtain ⟨hx, hxs⟩ := List.forall_mem_cons.1 hxs
    exact (ih hxs _).trans (isInside_next lax hx o)

theorem statementEnded_after (lax : Bool) (xs : List Lexeme) (ho : o.statementEnded = false) :
    (o.after lax xs).statementEnded = false := by
  induction xs generalizing o with
  | nil => exact ho
  | cons x xs ih => exact ih (statementEnded_next lax x ho)

/-- **A colon is the last token** of the statement that it ends. -/
theorem next_colon (lax : Bool) (hinside : o.isInside = false) (ho : o.statementEnded = false) :
    ∃ t, t.symbol = .colon ∧ (o.next lax .colon).tokens = t :: o.tokens ∧
      (o.next lax .colon).statementStart = (o.next lax .colon).tokens.length := by
  have hends : o.ends lax .colon = true := by
    rw [ends_of_plain lax (by decide) ho, hinside]
    rfl
  obtain ⟨t, ht, htokens, htopic⟩ := read_of_givesToken (x := .colon) (by decide) o
  have hadvance : (o.advance lax .colon).tokens = (o.read .colon).tokens := by
    rw [advance, if_neg (by decide), bound_of_some (b := .statementEnd) (by rw [htopic]; rfl),
      tokens_settle]
    rfl
  rw [next, if_pos hends]
  exact ⟨t, ht, hadvance.trans htokens, rfl⟩

end Outline

namespace Parsing

variable {p : Profile} {s s' : Parsing}

/-! ### Lexemes -/

/-- What a lexeme does that is read without a fault. -/
theorem readLexeme_ok {x : Lexeme} (h : readLexeme p x s = .ok () s') :
    s'.reading.outline = s.reading.outline.next p.isLax x ∧ s.program <+: s'.program := by
  obtain ⟨ended, s₁, hadvance, h⟩ := bind_ok h
  obtain ⟨r, hr, rfl⟩ := asParse_ok hadvance
  obtain ⟨hout, hended⟩ := Reading.advance_ok hr
  rw [Outline.next, ← hended, ← hout]
  cases ended with
  | false =>
    cases h
    exact ⟨rfl, List.prefix_rfl⟩
  | true =>
    obtain ⟨_, _, ⟨⟩, h⟩ := bind_ok h
    obtain ⟨⟨⟩, s₂, hcheck, h⟩ := bind_ok h
    cases h
    obtain ⟨y, -, hprogram, hreading, -⟩ := checkStatement_ok hcheck
    refine ⟨?_, hprogram ▸ List.prefix_append _ _⟩
    rw [outline_beginStatement, hreading]
    rfl

/-- What lexemes do that are read without a fault. -/
theorem readLexemes_ok {xs : List Lexeme} (h : xs.forM (readLexeme p) s = .ok () s') :
    s'.reading.outline = s.reading.outline.after p.isLax xs ∧ s.program <+: s'.program := by
  induction xs generalizing s with
  | nil =>
    cases h
    exact ⟨rfl, List.prefix_rfl⟩
  | cons x xs ih =>
    obtain ⟨⟨⟩, s₁, hone, hrest⟩ := bind_ok h
    obtain ⟨hout, hpre⟩ := readLexeme_ok hone
    obtain ⟨hout', hpre'⟩ := ih hrest
    exact ⟨by rw [hout', hout]; rfl, hpre.trans hpre'⟩

/-! ### The program -/

/-- A text is accepted: its parsing ends without a problem. -/
def Accepts (p : Profile) (text : List Char) : Prop :=
  ∃ s, (parse p text).run {} = .ok () s ∧ s.reading.problems = []

/-- The program of a text that is accepted has no words in it, at no point of the text. -/
theorem wordFree_of_accepts {text : List Char} {ys zs : List Lexeme} (h : Accepts p text)
    (hscan : (scan text).1 = ys ++ zs) :
    ∃ s, ys.forM (readLexeme p) { reading := Reading.fresh.start text } = .ok () s ∧
      WordFree s.program := by
  obtain ⟨s, hs, hproblems⟩ := h
  obtain ⟨s₁, s₂, b, hread, hlast, hprogram⟩ := parse_ok hs hproblems
  obtain ⟨s₀, r, hlex, -, rfl⟩ := readText_ok hread
  rw [hscan, List.forM_eq_forM, List.forM_append] at hlex
  obtain ⟨⟨⟩, s₃, hys, hzs⟩ := bind_ok hlex
  have hgrows : s₃.program <+: s₂.program := (readLexemes_ok hzs).2.trans (checkLast_ok hlast).2.1
  have hfree := (checkProgram_ok hprogram).1
  exact ⟨s₃, hys, hfree.of_prefix hgrows⟩

/-- A text that is accepted was cut up to its end. -/
theorem scan_of_accepts {text : List Char} (h : Accepts p text) : (scan text).2 = [] := by
  obtain ⟨s, hs, hproblems⟩ := h
  by_contra hrest
  exact problems_of_unread hs hrest hproblems

/-- **A colon that ends a statement** is left in the program. -/
theorem not_accepts_colon {s₁ : List Char} (s₂ : List Char) (hrest : (scan s₁).2 = [])
    (hs₁ : ∀ x ∈ (scan s₁).1, x.kind.isSimple = true) : ¬ Accepts p (s₁ ++ ':' :: s₂) := by
  intro h
  have hscan : (scan (s₁ ++ ':' :: s₂)).1 = ((scan s₁).1 ++ [.colon]) ++ (scan s₂).1 := by
    rw [scan_colon s₂ hrest hs₁, List.append_assoc]
    rfl
  obtain ⟨s, hlex, hfree⟩ := wordFree_of_accepts h hscan
  have hplain : ∀ x ∈ (scan s₁).1 ++ [.colon], x.IsPlain := by
    intro x hx
    rcases List.mem_append.1 hx with hx | hx
    · exact ⟨(Kind.ne_of_isSimple (hs₁ x hx)).2.1, scan_words s₁ x hx⟩
    · rw [List.mem_singleton.1 hx]
      exact ⟨by decide, .inr (by decide)⟩
  obtain ⟨t, ht, htokens, hstart⟩ := Outline.next_colon p.isLax
    (Outline.isInside_after p.isLax hs₁ Reading.fresh.outline)
    (Outline.statementEnded_after p.isLax (scan s₁).1 (o := Reading.fresh.outline) rfl)
  have hout : s.reading.outline =
      (Reading.fresh.outline.after p.isLax (scan s₁).1).next p.isLax .colon := by
    rw [(readLexemes_ok hlex).1, Outline.after_append]
    rfl
  rw [← hout] at htokens hstart
  -- all tokens up to the colon are covered by the program, and so it ends in a colon
  obtain ⟨hreduces, -⟩ := ((sound_start _).readLexemes hplain hlex).1.covers hfree
  have hall : s.reading.allTokens.take s.reading.statementStart = s.reading.tokens.reverse :=
    List.take_of_length_le (by rw [Reading.allTokens, List.length_reverse]; exact hstart.ge)
  rw [hall, show s.reading.tokens = _ from htokens] at hreduces
  have hcolon := hreduces.getLast?_separator (x := .colon) (by decide) (by simp [ht])
  exact hfree .colon (List.mem_of_getLast? hcolon) (by decide)

/-- **A colon and a line feed in the same place**, after a text that has no comments and leaves
everything closed. With the colon a text is accepted only if what stands before cannot be cut up to
its end, so that the colon is part of a string; with the line feed only if it can. So no two such
texts are both accepted, and the verdicts are the same only if neither is. -/
theorem parse_colon (p : Profile) (s₁ s₂ : List Char)
    (hs₁ : ∀ x ∈ (scan s₁).1, x.kind.isSimple = true) :
    (Accepts p (s₁ ++ ':' :: s₂) → (scan s₁).2 ≠ []) ∧
      (Accepts p (s₁ ++ '\n' :: s₂) → (scan s₁).2 = []) ∧
      ((Accepts p (s₁ ++ ':' :: s₂) ↔ Accepts p (s₁ ++ '\n' :: s₂)) ↔
        ¬ Accepts p (s₁ ++ ':' :: s₂) ∧ ¬ Accepts p (s₁ ++ '\n' :: s₂)) := by
  have hcolon : Accepts p (s₁ ++ ':' :: s₂) → (scan s₁).2 ≠ [] :=
    fun h hrest => not_accepts_colon s₂ hrest hs₁ h
  have hline : Accepts p (s₁ ++ '\n' :: s₂) → (scan s₁).2 = [] := by
    intro h
    by_contra hrest
    have hscan := scan_line s₁ s₂
    rw [if_neg hrest] at hscan
    have hend := scan_of_accepts h
    simp [hscan] at hend
  refine ⟨hcolon, hline, fun hiff => ?_, fun hnone => iff_of_false hnone.1 hnone.2⟩
  have hnot : ¬ Accepts p (s₁ ++ ':' :: s₂) := fun h => hcolon h (hline (hiff.1 h))
  exact ⟨hnot, fun h => hnot (hiff.2 h)⟩

/-- An assignment, and a second one. -/
def firstAssignment : List Char := "x = 1".toList

def secondAssignment : List Char := "y = 2".toList

theorem runs_assignments : ((scan firstAssignment).1.all (·.kind.isSimple) &&
    returnsWith sampleProfile (firstAssignment ++ '\n' :: secondAssignment)
      (·.reading.problems.isEmpty) &&
    returnsWith sampleProfile (firstAssignment ++ ':' :: secondAssignment)
      (!·.reading.problems.isEmpty)) = true := by
  decide +kernel

theorem parse_colon_assignments :
    Accepts sampleProfile (firstAssignment ++ '\n' :: secondAssignment) ∧
      ¬ Accepts sampleProfile (firstAssignment ++ ':' :: secondAssignment) := by
  have hruns := runs_assignments
  simp only [Bool.and_eq_true, List.all_eq_true] at hruns
  obtain ⟨⟨hsimple, hline⟩, -⟩ := hruns
  obtain ⟨s, hs, hproblems⟩ := exists_of_returnsWith hline
  have haccepted : Accepts sampleProfile (firstAssignment ++ '\n' :: secondAssignment) :=
    ⟨s, hs, List.isEmpty_iff.1 hproblems⟩
  obtain ⟨hcolon, hend, -⟩ := parse_colon sampleProfile firstAssignment secondAssignment hsimple
  exact ⟨haccepted, fun h => hcolon h (hend haccepted)⟩

/-- Two assignments on one line are a problem, although they are a program on two lines. -/
theorem parse_assignmentsOnOneLine :
    (∃ s, (parse sampleProfile (firstAssignment ++ '\n' :: secondAssignment)).run {} = .ok () s ∧
      s.reading.problems = []) ∧
    ∃ s, (parse sampleProfile (firstAssignment ++ ':' :: secondAssignment)).run {} = .ok () s ∧
      s.reading.problems ≠ [] := by
  have hruns := runs_assignments
  simp only [Bool.and_eq_true] at hruns
  obtain ⟨⟨-, hline⟩, hcolon⟩ := hruns
  obtain ⟨s, hs, hp⟩ := exists_of_returnsWith hline
  obtain ⟨s', hs', hp'⟩ := exists_of_returnsWith hcolon
  exact ⟨⟨s, hs, List.isEmpty_iff.1 hp⟩, s', hs', by simpa using hp'⟩

end Parsing

end BrightLint
