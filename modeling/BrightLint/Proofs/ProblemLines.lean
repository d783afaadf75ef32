import BrightLint.Proofs.BenchTrace
import BrightLint.Proofs.ColonSeparator
import BrightLint.Proofs.CommaRepair
import BrightLint.Proofs.Summary

/-!
The lines that are named if code cannot be parsed. It is always the line before the one reached. A
line feed has moved on to the next line when the statement that it ends is found to be at fault, so
that its own line is named; a colon has not, and the line before its own is named. If the statements
do not make up a program, that is found at the end of the text, and the last line but one is named.
So no line after the last but one is ever named, and what is named on the first line is no line at
all.

* `Lexeme.lineAfter`: the line on which a lexeme stands
* `Outline.ends_cases`: what ends a statement is a line feed, or stands for a colon
* `Parsing.StopsAt`: the lexeme at which a parsing stops, of which there is one at most
* `Parsing.line_readLexemes`: the line that a parsing has reached
* `Parsing.unparsed_cases`: where code that cannot be parsed is found
* `Parsing.parse_unparsedLine`: the line that is named
-/

namespace BrightLint

/-- A text has one line more than line feeds. -/
theorem Text.length_splitOn (text : List Char) :
    (text.splitOn '\n').length = text.count '\n' + 1 := by
  by_cases hmem : '\n' ∈ text
  · obtain ⟨l, rest, rfl, hl⟩ := List.eq_append_cons_of_mem hmem
    rw [List.splitOn_append_cons_self_of_not_mem hl, List.length_cons, Text.length_splitOn rest,
      List.count_append, List.count_eq_zero.2 hl, List.count_cons_self]
    omega
  · rw [List.splitOn_eq_singleton hmem, List.count_eq_zero.2 hmem]
    rfl
termination_by text.length

/-! ### Loops that fail -/

section Loops

variable {σ β : Type} {f : β → EStateM Fault σ Unit} {xs ys : List β} {x : β} {s s' t : σ}
  {e : Fault}

/-- A loop that fails does so in one of its rounds. -/
theorem forM_error (h : xs.forM f s = .error e s') :
    ∃ ys x zs t, xs = ys ++ x :: zs ∧ ys.forM f s = .ok () t ∧ f x t = .error e s' := by
  induction xs generalizing s with
  | nil => cases h
  | cons x xs ih =>
    rcases bind_error h with hone | ⟨⟨⟩, s₁, hone, hrest⟩
    · exact ⟨[], x, xs, s, rfl, rfl, hone⟩
    · obtain ⟨ys, y, zs, t, rfl, hys, hy⟩ := ih hrest
      exact ⟨x :: ys, y, zs, t, rfl, (bind_of_ok hone).trans hys, hy⟩

/-- After a round that fails there is no other. -/
theorem forM_of_error (hys : ys.forM f s = .ok () t) (hx : f x t = .error e s') (zs : List β) :
    (ys ++ x :: zs).forM f s = .error e s' := by
  rw [List.forM_eq_forM, List.forM_append]
  exact (bind_of_ok hys).trans (bind_of_error hx)

end Loops

/-! ### Lexemes -/

namespace Lexeme

variable {x : Lexeme} {xs : List Lexeme}

/-- The line on which the lexeme after some lexemes stands. -/
def lineAfter (xs : List Lexeme) : Nat := 1 + (joined xs).count '\n'

theorem IsCut.lineAfter_concat (hx : x.IsCut) (xs : List Lexeme) :
    lineAfter (xs ++ [x]) = if x.kind = .newLine then lineAfter xs + 1 else lineAfter xs := by
  rw [← hx.line_after, lineAfter, lineAfter, joined_concat, List.count_append, Nat.add_assoc]

theorem lineAfter_pos (xs : List Lexeme) : 1 ≤ lineAfter xs := Nat.le_add_right _ _

/-- Lexemes of a text stand on its lines. -/
theorem lineAfter_le {text : List Char} (h : xs <+: (scan text).1) :
    lineAfter xs ≤ (text.splitOn '\n').length := by
  obtain ⟨ys, hsplit⟩ := h
  have hcount := congrArg (List.count '\n') (joined_scan text).1
  rw [← hsplit, joined, List.flatMap_append, List.count_append, List.count_append] at hcount
  rw [Text.length_splitOn, lineAfter, joined]
  omega

theorem isCut_lineFeed : IsCut .lineFeed := ⟨['\n'], first?_lineFeed []⟩

theorem IsCut.eq_lineFeed (h : x.IsCut) (hx : x.kind = .newLine) : x = .lineFeed := by
  obtain ⟨s, hs⟩ := h
  exact (first?_lineFeed_or hs).resolve_right fun hne => hne.1 hx

/-- A lexeme that stands for a colon: a colon, or a directive with the name of the colon. -/
def IsColon (x : Lexeme) : Prop := x.topic = .kind .colon ∨ x.topic = .directive Kind.colon.name

theorem not_isColon_lineFeed : ¬ IsColon .lineFeed := by
  rintro (h | h) <;> cases h

end Lexeme

theorem Topic.eq_of_statementEnd {t : Topic} (h : t.boundary? = some .statementEnd) :
    t = .kind .colon ∨ t = .directive Kind.colon.name := by
  have hcolon : ∀ k : Kind, k.boundary? = some .statementEnd → k = .colon := by
    intro k hk
    cases k with
    | colon => rfl
    | _ => cases hk
  cases t with
  | kind k => exact .inl (congrArg Topic.kind (hcolon k h))
  | directive command =>
    by_cases hend : command = Symbol.endFunction.name
    · simp only [boundary?, if_pos hend] at h
      cases h
    · simp only [boundary?, if_neg hend] at h
      obtain ⟨k, hk, hb⟩ := Option.bind_eq_some_iff.1 h
      cases hcolon k hb
      unfold Kind.ofName? at hk
      have hname := List.find?_some hk
      exact .inr (congrArg Topic.directive (beq_iff_eq.1 hname).symm)

/-- **What ends a statement** is a line feed, or it stands for a colon. -/
theorem Outline.ends_cases {lax : Bool} {x : Lexeme} {o : Outline} (hx : x.IsCut)
    (ho : o.statementEnded = false) (h : o.ends lax x = true) : x = .lineFeed ∨ x.IsColon := by
  by_cases hdirective : x.kind = .directive
  · obtain ⟨command, hrole⟩ := hx.role_of_directive hdirective
    have hread : o.read x = o.turnTo (.directive command) := by
      unfold read
      rw [hrole]
    have hends : ((Topic.directive command).boundary? == some .statementEnd && !o.isInside) =
        true := by
      rw [← h, ends, advance, hdirective, if_neg (by decide), hread]
      exact (statementEnded_bound (o := o.turnTo (.directive command)) lax ho).symm
    have hmeans := beq_iff_eq.1 (Bool.and_eq_true_iff.1 hends).1
    refine .inr ?_
    rw [Lexeme.IsColon, Lexeme.topic, hrole]
    exact Topic.eq_of_statementEnd hmeans
  · rw [ends_of_plain lax hdirective ho, Bool.and_eq_true, Kind.endsStatement, Bool.or_eq_true,
      beq_iff_eq, beq_iff_eq] at h
    rcases h.1 with hk | hk
    · exact .inl (hx.eq_lineFeed hk)
    · exact .inr (.inl (by rw [Lexeme.topic_of_ne hdirective, hk]))

/-! ### Statements that cannot be parsed -/

namespace Bench

variable {b b' : Bench} {stage : Stage} {types : List Symbol}

theorem stage_of_visit (h : b.visit = .error (.unparsed stage) b') : stage = .statement := by
  unfold visit at h
  split at h
  · cases h
  · split at h
    · split at h
      · cases h
        rfl
      · split at h
        · cases h
        · split at h
          · cases h
            rfl
          · split at h <;> cases h
    · split at h
      · cases reducePart_error h
        rfl
      · cases h

theorem stage_of_scan (h : b.scan = .error (.unparsed stage) b') : stage = .statement := by
  fun_induction Bench.scan b with
  | case1 b hp f b₁ hv =>
    cases h
    exact stage_of_visit hv
  | case2 b hp b₁ hv ih => exact ih h
  | case3 b hp => cases h

/-- On the bench there are statements only. -/
theorem stage_of_check (h : b.check types = .error (.unparsed stage) b') : stage = .statement := by
  have hne : types ≠ [] := by
    rintro rfl
    cases h
  rcases check_cases (b := b) hne with ⟨f, b₁, hscan, hcheck⟩ |
    ⟨b₁, -, ⟨f, b₂, hpart, hcheck⟩ | ⟨b₂, -, hcheck⟩⟩ <;> rw [hcheck] at h <;> cases h
  · exact stage_of_scan hscan
  · cases reducePart_error hpart
    rfl

end Bench

namespace Parsing

variable {p : Profile} {text : List Char} {x y : Lexeme} {xs ys zs : List Lexeme} {s t : Parsing}
  {stage : Stage}

/-- **A lexeme at which a statement cannot be parsed** has been read, and has ended it. -/
theorem readLexeme_unparsed (h : readLexeme p x s = .error (.unparsed stage) t) :
    stage = .statement ∧ Reading.advance p x s.reading = .ok true t.reading := by
  cases hadvance : Reading.advance p x s.reading with
  | error f r =>
    have hstep := Reading.steps_advance p x s.reading
    rw [hadvance] at hstep
    obtain ⟨f', t', ht, hf⟩ := readLexeme_of_upset hadvance hstep
    cases ht.symm.trans h
    cases hf
  | ok ended r =>
    cases ended with
    | false => cases (readLexeme_of_false hadvance).symm.trans h
    | true =>
      rw [readLexeme_of_true hadvance] at h
      rcases bind_error h with hfails | ⟨_, _, -, hrest⟩
      · have hreading : t.reading = r := (checkStatement_error hfails).1
        refine ⟨?_, by rw [hreading]⟩
        cases hcheck : s.bench.check (r.statement.map Token.symbol) with
        | ok y b =>
          obtain ⟨_, hok, -⟩ := checkStatement_of_ok (s := { s with reading := r }) hcheck
          cases hok.symm.trans hfails
        | error f b =>
          obtain ⟨_, herror, -⟩ := checkStatement_of_error (s := { s with reading := r }) hcheck
          cases herror.symm.trans hfails
          exact Bench.stage_of_check hcheck
      · cases hrest

/-- **The line that is reached** after some lexemes. No statement is about to end there. -/
theorem line_readLexemes (hsplit : (scan text).1 = ys ++ zs)
    (h : ys.forM (readLexeme p) { reading := Reading.fresh.start text } = .ok () s) :
    s.reading.line = Lexeme.lineAfter ys ∧ s.reading.statementEnded = false := by
  refine forM_invariant (I := fun ys s =>
    s.reading.line = Lexeme.lineAfter ys ∧ s.reading.statementEnded = false) ?_ ⟨rfl, rfl⟩ h
  intro us x vs u u' hys hu hone
  have hx : x.IsCut := Lexeme.isCut_of_mem (s := text) (by rw [hsplit, hys]; simp)
  have hnext := (readLexeme_ok hone).1
  have hline : u'.reading.outline.line = (u.reading.outline.movedOver x).line := by
    rw [hnext]
    exact (Outline.stays_next p.isLax x u.reading.outline).line
  constructor
  · rw [hx.lineAfter_concat, ← hu.1]
    exact hline
  · exact (congrArg Outline.statementEnded hnext).trans
      (Outline.statementEnded_next p.isLax x hu.2)

/-- **The line that is reached** when a statement cannot be parsed: that of the line feed has been
left, that of a colon has not. -/
theorem line_unparsed (hsplit : (scan text).1 = xs ++ x :: zs)
    (hxs : xs.forM (readLexeme p) { reading := Reading.fresh.start text } = .ok () s)
    (hx : readLexeme p x s = .error (.unparsed stage) t) :
    x = .lineFeed ∧ t.reading.line = Lexeme.lineAfter xs + 1 ∨
      x.IsColon ∧ t.reading.line = Lexeme.lineAfter xs := by
  obtain ⟨hline, hended⟩ := line_readLexemes hsplit hxs
  obtain ⟨hout, hends⟩ := Reading.advance_ok (readLexeme_unparsed hx).2
  have hcut : x.IsCut := Lexeme.isCut_of_mem (s := text) (by rw [hsplit]; simp)
  have hreached : t.reading.line =
      if x.kind = .newLine then Lexeme.lineAfter xs + 1 else Lexeme.lineAfter xs := by
    rw [← hline]
    exact (congrArg Outline.line hout).trans
      (Outline.stays_advance p.isLax x s.reading.outline).line
  rcases Outline.ends_cases hcut hended hends.symm with rfl | hcolon
  · exact .inl ⟨rfl, hreached⟩
  · refine .inr ⟨hcolon, ?_⟩
    rw [hreached, if_neg]
    intro hfeed
    rw [hcut.eq_lineFeed hfeed] at hcolon
    exact Lexeme.not_isColon_lineFeed hcolon

/-! ### Programs that cannot be parsed -/

/-- **At the end** it is the program that cannot be parsed, and the whole text has been read. -/
theorem close_unparsed {rest : List Char} (h : close p rest s = .error (.unparsed stage) t) :
    stage = .program ∧ rest = [] ∧ t.reading.line = s.reading.line := by
  rcases finish_cases p rest s with hup | ⟨r, hr, hout⟩
  · obtain ⟨f, u, hu, hf⟩ := hup.bind (f := fun _ => conclude)
    cases hu.symm.trans h
    cases hf
  unfold close at h
  rw [bind_of_ok hr] at h
  obtain ⟨rfl, hnone, hreading⟩ := conclude_error h
  have hrest : rest = [] := by
    refine Decidable.byContradiction fun hne => ?_
    rw [if_neg (by simpa using hne)] at hout
    have hproblems := congrArg Outline.problems hout
    rw [show r.outline.problems = [] from hnone] at hproblems
    simp [Reading.outline, Reading.recordUnmatched] at hproblems
  rw [hrest] at hout
  refine ⟨rfl, hrest, ?_⟩
  rw [hreading]
  exact congrArg Outline.line hout

/-! ### Where a parsing stops -/

/-- A parsing stops at a lexeme after others: the statement that it ends cannot be parsed. -/
structure StopsAt (p : Profile) (text : List Char) (xs : List Lexeme) (x : Lexeme) : Prop where
  isNext : xs ++ [x] <+: (scan text).1
  rejects : ∃ t t', xs.forM (readLexeme p) { reading := Reading.fresh.start text } = .ok () t ∧
    readLexeme p x t = .error (.unparsed .statement) t'

theorem StopsAt.forM (h : StopsAt p text xs x) : ∃ t, (scan text).1.forM (readLexeme p)
    { reading := Reading.fresh.start text } = .error (.unparsed .statement) t := by
  obtain ⟨⟨zs, hsplit⟩, t, t', hxs, hx⟩ := h
  refine ⟨t', ?_⟩
  rw [← hsplit, List.append_assoc]
  exact forM_of_error hxs hx zs

/-- After a lexeme at which a parsing stops no other is read. -/
theorem StopsAt.not_prefix (h : StopsAt p text xs x) (h' : StopsAt p text ys y) :
    ¬ xs ++ [x] <+: ys := by
  rintro ⟨zs, rfl⟩
  obtain ⟨-, t, t', hxs, hx⟩ := h
  obtain ⟨-, u, u', hys, -⟩ := h'
  rw [List.append_assoc] at hys
  cases (forM_of_error hxs hx zs).symm.trans hys

/-- **A parsing stops at one lexeme at most.** -/
theorem StopsAt.unique (h : StopsAt p text xs x) (h' : StopsAt p text ys y) : xs = ys ∧ x = y := by
  have hsame : xs ++ [x] = ys ++ [y] := by
    rcases List.prefix_or_prefix_of_prefix h.isNext h'.isNext with hle | hle
    · exact (List.prefix_concat_iff.1 hle).resolve_right (h.not_prefix h')
    · exact ((List.prefix_concat_iff.1 hle).resolve_right (h'.not_prefix h)).symm
  have hinj := List.append_inj' hsame rfl
  exact ⟨hinj.1, List.singleton_inj.1 hinj.2⟩

/-- **Where code that cannot be parsed is found**: at the end of the text, or at the lexeme at which
the parsing stops. -/
theorem unparsed_cases {line : Int} (h : (parse p text).run {} = .ok () s)
    (hproblem : Problem.unparsed stage line ∈ s.reading.problems) :
    (stage = .program ∧ (∀ xs x, ¬ StopsAt p text xs x) ∧
      line + 1 = (text.splitOn '\n').length) ∨
    (stage = .statement ∧ ∃ xs x, StopsAt p text xs x ∧
      (x = .lineFeed ∧ line = Lexeme.lineAfter xs ∨
        x.IsColon ∧ line + 1 = Lexeme.lineAfter xs)) := by
  have hone := problems_parse h
  rcases parse_returns h with hok | ⟨stage', t, herror, rfl⟩
  · -- what is found at the end is a quotation mark
    obtain ⟨⟨⟩, s₁, hlex, hclose⟩ := bind_ok hok
    obtain ⟨⟨⟩, s₂, hfinish, hconclude⟩ := bind_ok hclose
    obtain ⟨r, hr, rfl⟩ := asParse_ok hfinish
    have hnone : s₁.reading.problems = [] := (recordsNone_readLexemes p _).of_ok hlex
    rw [reading_conclude_ok hconclude, (Reading.finish_ok hr).2.2] at hproblem
    split at hproblem
    · simp [hnone] at hproblem
    · simp [Reading.recordUnmatched, hnone] at hproblem
  · have hnone : t.reading.problems = [] := by
      refine List.eq_nil_of_length_eq_zero ?_
      simp only [recordUnparsed, List.length_append, List.length_singleton] at hone
      omega
    have hsame : Problem.unparsed stage line = .unparsed stage' (t.reading.line - 1) := by
      simpa [recordUnparsed, hnone] using hproblem
    cases hsame
    rcases bind_error herror with hlex | ⟨⟨⟩, s₁, hlex, hclose⟩
    · obtain ⟨xs, x, zs, u, hsplit, hxs, hx⟩ := forM_error hlex
      obtain rfl := (readLexeme_unparsed hx).1
      refine .inr ⟨rfl, xs, x, ⟨⟨zs, by rw [hsplit]; simp⟩, u, t, hxs, hx⟩, ?_⟩
      rcases line_unparsed hsplit hxs hx with ⟨hfeed, hline⟩ | ⟨hcolon, hline⟩
      · exact .inl ⟨hfeed, by omega⟩
      · exact .inr ⟨hcolon, by omega⟩
    · obtain ⟨rfl, hrest, hline⟩ := close_unparsed hclose
      refine .inl ⟨rfl, fun xs x hstops => ?_, ?_⟩
      · obtain ⟨u, hu⟩ := hstops.forM
        cases hu.symm.trans hlex
      · have hreached := (line_readLexemes (List.append_nil _).symm hlex).1
        rw [Lexeme.lineAfter, joined_of_scan hrest] at hreached
        rw [Text.length_splitOn]
        omega

/-- **The line that is named.** If the statements of a text do not make up a program, the last line
but one is named. If a statement that ends within the text cannot be parsed, the line of the line
feed that ends it is named, but for a colon the line before. So a line of the text is named, and for
a statement the one on which it ends, if and only if it is a program of more than one line that
cannot be parsed, or a statement that a line feed ends. -/
theorem parse_unparsedLine (p : Profile) (text : List Char) (s : Parsing)
    (h : (parse p text).run {} = .ok () s) (stage : Stage) (line : Int)
    (hproblem : Problem.unparsed stage line ∈ s.reading.problems) :
    ((stage = .program ∧ line + 1 = (text.splitOn '\n').length) ∨
      (stage = .statement ∧ ∃ xs x, StopsAt p text xs x ∧
        (x = .lineFeed ∧ line = Lexeme.lineAfter xs ∨
          x.IsColon ∧ line + 1 = Lexeme.lineAfter xs))) ∧
    (0 ≤ line ∧ line < (text.splitOn '\n').length) ∧
    ((1 ≤ line ∧ line ≤ (text.splitOn '\n').length ∧
        ∀ xs x, StopsAt p text xs x → line = Lexeme.lineAfter xs) ↔
      (stage = .program ∧ '\n' ∈ text) ∨ ∃ xs, StopsAt p text xs .lineFeed) := by
  have hlines := Text.length_splitOn text
  rcases unparsed_cases h hproblem with ⟨rfl, hgoes, hline⟩ | ⟨rfl, xs, x, hstops, hline⟩
  · refine ⟨.inl ⟨rfl, hline⟩, by omega, ?_⟩
    have hmore : 1 ≤ line ↔ '\n' ∈ text := by
      rw [← List.count_pos_iff]
      omega
    constructor
    · intro hnamed
      exact .inl ⟨rfl, hmore.1 hnamed.1⟩
    · rintro (⟨-, hmem⟩ | ⟨xs, hstops⟩)
      · exact ⟨hmore.2 hmem, by omega, fun xs x hstops => absurd hstops (hgoes xs x)⟩
      · exact absurd hstops (hgoes xs _)
  · refine ⟨.inr ⟨rfl, xs, x, hstops, hline⟩, ?_⟩
    rcases hline with ⟨rfl, hline⟩ | ⟨hcolon, hline⟩
    · have hnext := Lexeme.lineAfter_le hstops.isNext
      rw [Lexeme.isCut_lineFeed.lineAfter_concat, if_pos (by rfl)] at hnext
      have hpos := Lexeme.lineAfter_pos xs
      refine ⟨by omega, iff_of_true ⟨by omega, by omega, fun ys y hy => ?_⟩ (.inr ⟨xs, hstops⟩)⟩
      rw [hline, (hstops.unique hy).1]
    · have hle := Lexeme.lineAfter_le ((List.prefix_append xs [x]).trans hstops.isNext)
      have hpos := Lexeme.lineAfter_pos xs
      refine ⟨by omega, iff_of_false (fun hnamed => ?_) ?_⟩
      · have hown := hnamed.2.2 xs x hstops
        omega
      · rintro (⟨hstage, -⟩ | ⟨ys, hfeed⟩)
        · cases hstage
        · rw [(hstops.unique hfeed).2] at hcolon
          exact Lexeme.not_isColon_lineFeed hcolon

/-- A statement on the second line that ends with a colon too soon. -/
def brokenAssignment : List Char := "x = 1\ny = :z = 3".toList

theorem parse_unparsedLine_brokenAssignment :
    ∃ s, (parse sampleProfile brokenAssignment).run {} = .ok () s ∧
      Problem.unparsed .statement 1 ∈ s.reading.problems ∧
      ∃ xs x, StopsAt sampleProfile brokenAssignment xs x ∧
        (x = .lineFeed ∧ Lexeme.lineAfter xs = 1 ∨ x.IsColon ∧ Lexeme.lineAfter xs = 2) := by
  have hreturns : returnsWith sampleProfile brokenAssignment
      (·.reading.problems.contains (.unparsed .statement 1)) = true := by
    decide +kernel
  obtain ⟨s, hs, hcontains⟩ := exists_of_returnsWith hreturns
  have hproblem := List.contains_iff_mem.1 hcontains
  refine ⟨s, hs, hproblem, ?_⟩
  rcases (parse_unparsedLine sampleProfile brokenAssignment s hs .statement 1 hproblem).1 with
    ⟨hstage, -⟩ | ⟨-, xs, x, hstops, hline⟩
  · cases hstage
  · refine ⟨xs, x, hstops, ?_⟩
    rcases hline with ⟨hfeed, hline⟩ | ⟨hcolon, hline⟩
    · exact .inl ⟨hfeed, by omega⟩
    · exact .inr ⟨hcolon, by omega⟩

/-- A statement on the first line that ends with a colon too soon. -/
def brokenStart : List Char := "x = :y = 2".toList

/-- What is named is no line. -/
theorem parse_brokenStart :
    ∃ s, (parse sampleProfile brokenStart).run {} = .ok () s ∧
      s.reading.problems = [.unparsed .statement 0] := by
  have hreturns : returnsWith sampleProfile brokenStart
      (·.reading.problems == [.unparsed .statement 0]) = true := by
    decide +kernel
  obtain ⟨s, hs, hproblems⟩ := exists_of_returnsWith hreturns
  exact ⟨s, hs, beq_iff_eq.1 hproblems⟩

end Parsing

end BrightLint
