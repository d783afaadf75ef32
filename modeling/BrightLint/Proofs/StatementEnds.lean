import BrightLint.Proofs.SettingsIndependence

/-!
The ends of statements. Apart from directives, only a colon and the end of a line end a statement,
and they do so unless a bracket or a function is open. A function is open from its first word on,
and nothing but a directive ever closes it: the words that end a function are not among the lexemes
that count as boundaries. So once a function has begun, no statement ends any more before the text
does.

* `Outline.ends_of_plain`: which lexemes end a statement
* `Reading.statements_readLexeme`: statements are counted when they end
* `Outline.openFunction_next`: what a lexeme does to the number of open functions
* `Reading.read_openFunction`: the number of open functions after any lexemes of a text
-/

namespace BrightLint

/-- Whether a kind of lexeme ends a statement outside brackets and functions. -/
def Kind.endsStatement (k : Kind) : Bool := k == .newLine || k == .colon

theorem Kind.endsStatement_of_ne {k : Kind} (h : k ≠ .newLine) :
    k.endsStatement = (k.boundary? == some .statementEnd) := by
  cases k with
  | newLine => exact absurd rfl h
  | _ => rfl

namespace Outline

variable {lax : Bool} {o : Outline} {x : Lexeme}

/-! ### Which lexemes end a statement -/

/-- Between two lexemes no statement is about to end. -/
theorem statementEnded_next (lax : Bool) (x : Lexeme) (ho : o.statementEnded = false) :
    (o.next lax x).statementEnded = false := by
  unfold next ends
  by_cases hx : x.kind = .blank
  · simp [hx, advance, ho]
  · cases h : (o.advance lax x).statementEnded <;> simp [hx, h, beginStatement]

theorem statementEnded_settle (o : Outline) :
    o.settle.statementEnded = (o.statementEnded && !o.isInside) := by
  unfold settle
  cases h : o.isInside <;> simp

theorem statementEnded_close {g : Outline → Outline}
    (hg : ∀ o : Outline, (g o).statementEnded = o.statementEnded) (o : Outline) :
    (o.close lax g).statementEnded = o.statementEnded := by
  unfold close dropComma
  split
  · rfl
  · rw [hg]
    split <;> rfl

/-- A boundary that is no end of a statement does not make one. -/
theorem statementEnded_applyBoundary {b : Boundary} (hb : b ≠ .statementEnd) (o : Outline) :
    (applyBoundary lax b o).statementEnded = o.statementEnded := by
  cases b with
  | statementEnd => exact absurd rfl hb
  | closeCurly =>
    exact statementEnded_close (g := fun o => { o with openCurly := o.openCurly - 1 })
      (fun _ => rfl) o
  | closeSquare =>
    exact statementEnded_close (g := fun o => { o with openSquare := o.openSquare - 1 })
      (fun _ => rfl) o
  | _ => rfl

theorem isInside_settle (o : Outline) : o.settle.isInside = o.isInside := by
  unfold settle
  split <;> rfl

/-- Before it is taken as a boundary, a lexeme neither opens nor closes anything. -/
theorem open_read (x : Lexeme) (o : Outline) :
    (o.read x).openCurly = o.openCurly ∧ (o.read x).openSquare = o.openSquare ∧
      (o.read x).openFunction = o.openFunction := by
  unfold read
  cases x.role with
  | lineEnd =>
    unfold endLine addComma
    simp only
    split <;> exact ⟨rfl, rfl, rfl⟩
  | directive command => exact ⟨rfl, rfl, rfl⟩
  | word =>
    obtain ⟨n, hn⟩ := countFunction_eq x.kind (o.turnTo (.kind x.kind))
    simp only [hn]
    unfold addToken
    split <;> exact ⟨rfl, rfl, rfl⟩

theorem isInside_read (x : Lexeme) (o : Outline) : (o.read x).isInside = o.isInside := by
  obtain ⟨hcurly, hsquare, hfunction⟩ := open_read x o
  unfold isInside
  rw [hcurly, hsquare, hfunction]

/-- A word, before it is taken as a boundary, does not end a statement. -/
theorem statementEnded_of_word (hx : x.role = .word) (o : Outline) :
    (o.read x).statementEnded = o.statementEnded := by
  obtain ⟨n, hn⟩ := countFunction_eq x.kind (o.turnTo (.kind x.kind))
  unfold read
  simp only [hx, hn]
  unfold addToken
  split <;> rfl

/-- A statement ends if the latest lexeme means so and nothing is open. -/
theorem statementEnded_bound (lax : Bool) (ho : o.statementEnded = false) :
    (o.bound lax).statementEnded =
      (o.topic.bind Topic.boundary? == some .statementEnd && !o.isInside) := by
  cases hb : o.topic.bind Topic.boundary? with
  | none =>
    rw [bound_of_none hb, statementEnded_settle, ho]
    rfl
  | some b =>
    rw [bound_of_some hb, statementEnded_settle]
    by_cases hend : b = .statementEnd
    · subst hend
      rfl
    · rw [statementEnded_applyBoundary hend, ho]
      simp [hend]

/-- **Which lexemes end a statement.** -/
theorem ends_of_plain (lax : Bool) (hx : x.kind ≠ .directive) (ho : o.statementEnded = false) :
    o.ends lax x = (x.kind.endsStatement && !o.isInside) := by
  unfold ends advance
  by_cases hblank : x.kind = .blank
  · rw [hblank]
    rfl
  rw [if_neg hblank, bne_iff_ne.2 hblank, Bool.true_and]
  cases hrole : x.role with
  | lineEnd =>
    have hk := x.kind_of_lineEnd hrole
    have hread : o.read x = (o.turnTo (.kind .newLine)).endLine := by
      unfold read
      rw [hrole, hk]
    have hinside := isInside_read x o
    rw [hread] at hinside
    have hended : (o.turnTo (.kind .newLine)).endLine.statementEnded = true := by
      unfold endLine addComma
      split <;> rfl
    rw [hread, bound_of_none (by rw [topic_endLine]; rfl), statementEnded_settle, hended, hinside,
      hk]
    rfl
  | directive command => exact absurd (x.kind_of_directive hrole) hx
  | word =>
    have hended := statementEnded_of_word hrole o
    rw [Kind.endsStatement_of_ne (Reading.kind_of_word hrole),
      statementEnded_bound lax (hended.trans ho), boundary?_read hx, isInside_read]

/-! ### Open functions -/

theorem openFunction_settle (o : Outline) : o.settle.openFunction = o.openFunction := by
  unfold settle
  split <;> rfl

theorem openFunction_close {g : Outline → Outline}
    (hg : ∀ o : Outline, (g o).openFunction = o.openFunction) (o : Outline) :
    (o.close lax g).openFunction = o.openFunction := by
  unfold close dropComma
  split
  · rfl
  · rw [hg]
    split <;> rfl

/-- The kinds of lexemes that are boundaries open functions, but close none. -/
theorem openFunction_boundary {k : Kind} {b : Boundary} (hk : k.boundary? = some b) (o : Outline) :
    (applyBoundary lax b o).openFunction =
      o.openFunction + if k = .functionWord then 1 else 0 := by
  by_cases hfunction : k = .functionWord
  · subst hfunction
    cases hk
    rfl
  rw [if_neg hfunction, Int.add_zero]
  cases k with
  | functionWord => exact absurd rfl hfunction
  | closeCurly =>
    cases hk
    exact openFunction_close (g := fun o => { o with openCurly := o.openCurly - 1 })
      (fun _ => rfl) o
  | closeSquare =>
    cases hk
    exact openFunction_close (g := fun o => { o with openSquare := o.openSquare - 1 })
      (fun _ => rfl) o
  | _ => cases hk <;> rfl

/-- **Without directives** a function is opened by its first word, and never closed. -/
theorem openFunction_next (lax : Bool) (hx : x.kind ≠ .directive) (o : Outline) :
    (o.next lax x).openFunction = o.openFunction + if x.kind = .functionWord then 1 else 0 := by
  have hadvance : (o.advance lax x).openFunction =
      o.openFunction + if x.kind = .functionWord then 1 else 0 := by
    unfold advance
    by_cases hblank : x.kind = .blank
    · rw [if_pos hblank, hblank]
      exact (Int.add_zero _).symm
    rw [if_neg hblank]
    have hmeans := boundary?_read hx o
    have hread := (open_read x o).2.2
    cases hb : x.kind.boundary? with
    | none =>
      have hne : x.kind ≠ .functionWord := by
        intro hk
        rw [hk] at hb
        cases hb
      rw [bound_of_none (hmeans.trans hb), openFunction_settle, hread, if_neg hne,
        Int.add_zero]
    | some b =>
      rw [bound_of_some (hmeans.trans hb), openFunction_settle, openFunction_boundary hb,
        hread]
  unfold next
  split <;> exact hadvance

end Outline

namespace Reading

open Lint

variable {p : Profile} {x : Lexeme} {r r' : Reading}

/-- A statement is counted when it ends. -/
theorem statements_readLexeme (h : readLexeme p x r = .ok () r') :
    r'.statements = r.statements + (r.outline.ends p.isLax x).toNat := by
  obtain ⟨ended, r₁, hadvance, h⟩ := bind_ok h
  have hended := (advance_ok hadvance).2
  have hkept : r₁.statements = r.statements := (blind_advance p x).statements hadvance
  rw [← hended, ← hkept]
  cases ended <;> cases h <;> rfl

/-! ### The number of open functions -/

/-- How many of some lexemes are of a kind. -/
def countKind (k : Kind) (xs : List Lexeme) : Nat := xs.countP (·.kind == k)

theorem countKind_eq_zero {k : Kind} {xs : List Lexeme} :
    countKind k xs = 0 ↔ ∀ x ∈ xs, x.kind ≠ k := by
  simp [countKind, List.countP_eq_zero]

/-- What is known after some lexemes of a text without directives. -/
structure Counted (ys : List Lexeme) (r : Reading) : Prop where
  openFunction : r.openFunction = countKind .functionWord ys
  statementEnded : r.statementEnded = false

theorem Counted.readLexeme {ys : List Lexeme} (hr : r.Counted ys) (hx : x.kind ≠ .directive)
    (h : Reading.readLexeme p x r = .ok () r') : r'.Counted (ys ++ [x]) := by
  have hout := (readLexeme_ok h).1
  constructor
  · have hopen : r'.openFunction = r.openFunction + if x.kind = .functionWord then 1 else 0 :=
      (congrArg Outline.openFunction hout).trans (Outline.openFunction_next _ hx _)
    rw [hopen, hr.openFunction, countKind, countKind, List.countP_append, List.countP_singleton]
    by_cases hk : x.kind = .functionWord <;> simp [hk]
  · exact (congrArg Outline.statementEnded hout).trans
      (Outline.statementEnded_next _ x hr.statementEnded)

/-- **The number of open functions** after any lexemes of a text without directives is that of the
words that begin a function. So it is the number of functions that have begun and not ended exactly
as long as none has ended; and once a function has begun, neither a colon nor the end of a line ends
a statement. -/
theorem read_openFunction (p : Profile) (text : List Char) (r : Reading)
    (hd : ∀ x ∈ (scan text).1, x.kind ≠ .directive) (h : (read p text).run fresh = .ok () r)
    (ys zs : List Lexeme) (hsplit : (scan text).1 = ys ++ zs) :
    ∃ s, (ys.forM (readLexeme p)).run (fresh.start text) = .ok () s ∧
      s.openFunction = countKind .functionWord ys ∧
      (s.openFunction = countKind .functionWord ys - (countKind .endFunctionWord ys : Int) ↔
        ∀ y ∈ ys, y.kind ≠ .endFunctionWord) ∧
      ∀ z zs', zs = z :: zs' → z.kind = .newLine ∨ z.kind = .colon →
        ∃ s', (readLexeme p z).run s = .ok () s' ∧ s'.statements = s.statements +
          if s.openCurly = 0 ∧ s.openSquare = 0 ∧ ∀ y ∈ ys, y.kind ≠ .functionWord then 1
          else 0 := by
  obtain ⟨⟨⟩, r₁, hlex, -⟩ := bind_ok
    (x := (scan text).1.forM (readLexeme p)) (s := fresh.start text) h
  rw [hsplit] at hd hlex
  obtain ⟨s, hys, hzs⟩ := forM_append_ok hlex
  have hs : s.Counted ys := by
    refine forM_invariant (I := fun ys r => r.Counted ys) ?_ ⟨rfl, rfl⟩ hys
    rintro us x vs t t' rfl ht hone
    exact ht.readLexeme (hd x (by simp)) hone
  refine ⟨s, hys, hs.openFunction, ?_, ?_⟩
  · rw [hs.openFunction, ← countKind_eq_zero]
    omega
  · rintro z zs' rfl hz
    obtain ⟨⟨⟩, s', hone, -⟩ := bind_ok hzs
    refine ⟨s', hone, ?_⟩
    have hends : s.outline.ends p.isLax z = !s.outline.isInside := by
      rw [Outline.ends_of_plain _ (hd z (by simp)) hs.statementEnded]
      rcases hz with hz | hz <;> rw [hz] <;> rfl
    have hinside : s.outline.isInside = false ↔
        s.openCurly = 0 ∧ s.openSquare = 0 ∧ ∀ y ∈ ys, y.kind ≠ .functionWord := by
      have hopen : s.outline.openFunction = countKind .functionWord ys := hs.openFunction
      rw [← countKind_eq_zero, Outline.isInside, hopen]
      simp [Reading.outline, and_assoc]
    rw [statements_readLexeme hone, hends]
    cases hin : s.outline.isInside with
    | false => rw [if_pos (hinside.1 hin)]; rfl
    | true =>
      rw [if_neg fun hout => Bool.noConfusion (hin.symm.trans (hinside.2 hout))]
      rfl

/-- A function of two lines. -/
def closedFunction : List Char := "function()\nend function\n".toList

theorem scan_closedFunction : (scan closedFunction).1 =
    [⟨"function".toList, .plain, .functionWord, .functionWord, 1⟩,
      ⟨['('], .plain, .openParen, .openParen, 0⟩, ⟨[')'], .plain, .closeParen, .closeParen, 0⟩,
      .lineFeed, ⟨"end function".toList, .plain, .endFunctionWord, .endFunctionWord, -1⟩] ++
      [.lineFeed] := by
  decide +kernel

theorem returns_closedFunction : returnsWith ⟨.obj [], fun _ => false⟩ closedFunction
    (fun r => r.openFunction == 1 && r.statements == 1) = true := by
  decide +kernel

/-- The end of the line after the end of a function does not end a statement. -/
theorem read_openFunction_closedFunction :
    ∃ ys s s', (scan closedFunction).1 = ys ++ [.lineFeed] ∧
      (ys.forM (readLexeme ⟨.obj [], fun _ => false⟩)).run (fresh.start closedFunction) =
        .ok () s ∧
      (readLexeme ⟨.obj [], fun _ => false⟩ .lineFeed).run s = .ok () s' ∧
      countKind .functionWord ys = 1 ∧ countKind .endFunctionWord ys = 1 ∧ s.openFunction = 1 ∧
      s'.statements = s.statements := by
  obtain ⟨r, hr, -⟩ := exists_of_returnsWith returns_closedFunction
  have hplain : ∀ x ∈ (scan closedFunction).1, x.kind ≠ .directive := by
    rw [scan_closedFunction]
    decide
  obtain ⟨s, hs, hopen, -, hend⟩ := read_openFunction ⟨.obj [], fun _ => false⟩ closedFunction r
    hplain hr _ _ scan_closedFunction
  obtain ⟨s', hs', hcount⟩ := hend .lineFeed [] rfl (.inl rfl)
  refine ⟨_, s, s', scan_closedFunction, hs, hs', by decide, by decide, hopen, hcount.trans ?_⟩
  rw [if_neg fun h => absurd h.2.2 (by decide)]
  rfl

/-- A function that has ended still counts as open, and the text as one statement. -/
theorem read_closedFunction :
    ∃ r, (read ⟨.obj [], fun _ => false⟩ closedFunction).run fresh = .ok () r ∧
      countKind .functionWord (scan closedFunction).1 = 1 ∧
      countKind .endFunctionWord (scan closedFunction).1 = 1 ∧ r.openFunction = 1 ∧
      r.statements = 1 := by
  obtain ⟨r, hr, hq⟩ := exists_of_returnsWith returns_closedFunction
  simp only [Bool.and_eq_true, beq_iff_eq] at hq
  rw [scan_closedFunction]
  exact ⟨r, hr, by decide, by decide, hq⟩

end Reading

end BrightLint
