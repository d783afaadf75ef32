import BrightLint.Proofs.History
import BrightLint.Proofs.ReducerLoop

/-!
The scan of a statement for brackets as a loop. The place that is looked at moves back when a
bracket closes, and it can come to lie before the start of the statement; but the statement gets
shorter by as much as the place moves back, and so each look brings the place nearer to the end.
This holds whatever is remembered from earlier statements.

Nothing is taken for granted here about loops coming to an end: the scan is given a number of looks,
and the loops that reduce the part between two brackets are given a number of rounds.

* `Bench.reducePartWithin`, `Bench.visitWithin`, `Bench.scanWithin`: the scan with its loops
* `Bench.reducePartWithin_eq`, `Bench.visitWithin_eq`: one look comes to an end
* `Bench.ahead_next`: one look brings the place nearer to the end
* `Bench.scan_within`: there are no more looks than symbols
-/

namespace BrightLint

namespace Bench

/-! ### The loops of a scan -/

/-- The loops that reduce the next part. -/
def partLoop (b : Bench) : Reducer where
  statement := b.nextPart
  grammar := b.grammar
  priorities := b.grammar.grammar.levels.length

/-- The bench after the loops have ended, before the part is replaced. -/
def afterLoop (b : Bench) (t : Reducer) : Bench :=
  { b with
    openings := b.openings.tail
    closing := b.bound
    grammar := t.grammar
    part := some t.statement
    steps := b.steps ++ t.output.map Reduced.statement }

/-- Puts a symbol in place of the next part. -/
def replacePart (b : Bench) (start bound : Int) (x : Symbol) : Bench :=
  { b with
    place := b.place - (Span.between (start + 1) bound b.tokens).length
    tokens := Span.cut (start + 1) bound (Span.set start x b.tokens) }

/-- Reduces the next part by loops with `m` rounds. -/
def reducePartWithin (m : Nat) (b : Bench) : Option (Result Unit) :=
  match (Reducer.iterate m b.partLoop).run with
  | none => none
  | some (.error (f, t)) => some (.error f (b.afterLoop t))
  | some (.ok t) =>
    match t.statement with
    | [] => some (.error .badIndex (b.afterLoop t))
    | x :: _ => some (.ok () ((b.afterLoop t).replacePart (b.openings.headD 0) b.bound x))

/-- Whether a closing bracket is to be looked at. -/
def atCloser (b : Bench) : Bool := (Span.get? b.place b.tokens).any Symbol.isCloser

/-- Looks at one symbol; the part that a bracket closes is reduced by loops with `m` rounds. -/
def visitWithin (m : Nat) (b : Bench) : Option (Result Unit) :=
  if b.atCloser then reducePartWithin m { b with closing := b.place } else some b.visit

/-- Looks at one symbol after the other, `n` at most. -/
def scanWithin (m : Nat) : Nat → Bench → Option (Result Unit)
  | n, b =>
    if b.place < b.tokens.length then
      match n with
      | 0 => none
      | n + 1 =>
        match visitWithin m b with
        | none => none
        | some (.error f b') => some (.error f b')
        | some (.ok () b') => scanWithin m n { b' with place := b'.place + 1 }
    else some (.ok () b)

/-! ### One look -/

section Look

variable {b : Bench}

/-- What the loops leave of a part that they reduce. -/
theorem reducePart_of_done_loop {t : Reducer} {x : Symbol}
    (hdone : (reduceStatement b.grammar b.nextPart).done = true)
    (hgrammar : t.grammar = (reduceStatement b.grammar b.nextPart).grammar)
    (hstatement : t.statement = (reduceStatement b.grammar b.nextPart).final)
    (houtput : t.output.map Reduced.statement = (reduceStatement b.grammar b.nextPart).steps)
    (hx : t.statement = [x]) :
    b.reducePart = .ok () ((b.afterLoop t).replacePart (b.openings.headD 0) b.bound x) := by
  have hfinal := hstatement.symm.trans hx
  unfold afterLoop replacePart
  rw [hgrammar, houtput, hx]
  unfold nextPart bound at *
  unfold reducePart
  simp only [hdone, hfinal]

/-- What the loops leave of a part that they give up. -/
theorem reducePart_of_undone_loop {t : Reducer}
    (hdone : (reduceStatement b.grammar b.nextPart).done = false)
    (hgrammar : t.grammar = (reduceStatement b.grammar b.nextPart).grammar)
    (hstatement : t.statement = (reduceStatement b.grammar b.nextPart).final)
    (houtput : t.output.map Reduced.statement = (reduceStatement b.grammar b.nextPart).steps) :
    b.reducePart = .error (.unparsed .statement) (b.afterLoop t) := by
  unfold afterLoop
  rw [hgrammar, houtput, hstatement]
  unfold nextPart bound at *
  unfold reducePart
  simp only [hdone]

/-- **The loops that reduce a part come to an end**, with what `reducePart` says. -/
theorem reducePartWithin_eq (b : Bench) :
    ∃ k, ∀ m, k ≤ m → b.reducePartWithin m = some b.reducePart := by
  obtain ⟨t, es, h⟩ := Reducer.takeTurns_spec
    { b.partLoop with byProgram := false, byStatement := false, isValid := false } rfl rfl rfl
  obtain ⟨k, hk⟩ := h.comesTo
  have hgrammar : t.grammar = (reduceStatement b.grammar b.nextPart).grammar := h.grammar_eq
  have hstatement : t.statement = (reduceStatement b.grammar b.nextPart).final := by
    have := congrArg List.reverse h.stack_eq
    simpa [Reducer.stack, reduceStatement, partLoop] using this
  have houtput : t.output.map Reduced.statement = (reduceStatement b.grammar b.nextPart).steps := by
    rw [h.output_eq]
    exact h.steps_eq
  refine ⟨k, fun m hm => ?_⟩
  have hrun : (Reducer.iterate m b.partLoop).run =
      some (if (reduceStatement b.grammar b.nextPart).done then .ok t
        else .error (.unparsed .statement, t)) := hk m hm
  cases hdone : (reduceStatement b.grammar b.nextPart).done with
  | true =>
    obtain ⟨-, x, hx, -⟩ := reduceStatement_of_done hdone
    have hone : t.statement = [x] := hstatement.trans hx
    rw [reducePart_of_done_loop hdone hgrammar hstatement houtput hone]
    simp only [reducePartWithin, hrun, hdone, if_true, hone]
  | false =>
    rw [reducePart_of_undone_loop hdone hgrammar hstatement houtput]
    simp only [reducePartWithin, hrun, hdone, Bool.false_eq_true, if_false]

/-- A look at a bracket that closes reduces the part before it. -/
theorem visit_of_atCloser (h : b.atCloser = true) :
    b.visit = reducePart { b with closing := b.place } := by
  unfold atCloser at h
  unfold visit
  cases ht : Span.get? b.place b.tokens with
  | none => simp [ht] at h
  | some t =>
    have hc : t.isCloser = true := by simpa [ht] using h
    have ho : t.closer? = none := by cases t <;> simp [Symbol.isCloser] at hc <;> rfl
    simp only [ho, hc, if_true]

/-- **One look comes to an end.** -/
theorem visitWithin_eq (b : Bench) : ∃ k, ∀ m, k ≤ m → b.visitWithin m = some b.visit := by
  by_cases hc : b.atCloser = true
  · obtain ⟨k, hk⟩ := reducePartWithin_eq { b with closing := b.place }
    refine ⟨k, fun m hm => ?_⟩
    rw [visitWithin, if_pos hc, visit_of_atCloser hc]
    exact hk m hm
  · exact ⟨0, fun m _ => by rw [visitWithin, if_neg hc]⟩

end Look

/-! ### All looks -/

/-- **One look brings the place nearer to the end.** -/
theorem ahead_next {b b' : Bench} (h : b.visit = .ok () b') :
    ahead { b' with place := b'.place + 1 } + 1 ≤ b.ahead := by
  have hle := visit_ok h
  simp only [ahead] at hle ⊢
  omega

/-- With as many looks as the place is away from the end, and with enough rounds for the loops of
each of them, the scan comes to an end. -/
theorem scanWithin_eq (n : Nat) {b : Bench} (hn : b.ahead ≤ n) :
    ∃ k, ∀ m, k ≤ m → scanWithin m n b = some b.scan := by
  induction n generalizing b with
  | zero =>
    have hp : ¬ b.place < b.tokens.length := by
      simp only [ahead] at hn
      omega
    exact ⟨0, fun m _ => by rw [scanWithin, if_neg hp, scan_of_end hp]⟩
  | succ n ih =>
    by_cases hp : b.place < b.tokens.length
    · obtain ⟨k, hk⟩ := visitWithin_eq b
      cases hv : b.visit with
      | error f b' =>
        refine ⟨k, fun m hm => ?_⟩
        rw [scanWithin, if_pos hp, hk m hm, hv, scan_of_error hp hv]
      | ok u b' =>
        have hnext := ahead_next hv
        obtain ⟨j, hj⟩ := ih (b := { b' with place := b'.place + 1 }) (by omega)
        refine ⟨max k j, fun m hm => ?_⟩
        rw [scanWithin, if_pos hp, hk m (by omega), hv, scan_of_ok hp hv]
        exact hj m (by omega)
    · exact ⟨0, fun m _ => by rw [scanWithin, if_neg hp, scan_of_end hp]⟩

theorem ahead_lay (b : Bench) (types : List Symbol) : (b.lay types).ahead = types.length := by
  simp [ahead, lay]

/-- **The scan for brackets comes to an end after at most as many looks as the statement has
symbols**, well or with a fault, whatever the statement and whatever earlier statements have left on
the bench. Each look that ends well brings the place nearer to the end by one at least; and each
look comes to an end itself, since the loops do by which a bracket that closes has its part
reduced. -/
theorem scan_within (b : Bench) (types : List Symbol) :
    (∀ c c' : Bench, c.visit = .ok () c' →
      ahead { c' with place := c'.place + 1 } + 1 ≤ c.ahead) ∧
    (∀ c : Bench, ∃ k, ∀ m, k ≤ m → c.visitWithin m = some c.visit) ∧
    (b.lay types).ahead = types.length ∧
    ∃ k, ∀ m, k ≤ m → scanWithin m types.length (b.lay types) = some (b.lay types).scan :=
  ⟨fun _ _ h => ahead_next h, visitWithin_eq, ahead_lay b types,
    scanWithin_eq types.length (Int.le_of_eq (ahead_lay b types))⟩

/-- A sum in brackets; the bracket that closes is to be looked at. -/
def bracketedSum : Bench where
  tokens := [.openParen, .value, .operator, .value, .closeParen]
  place := 4
  openings := [1, 0]

theorem scan_within_bracketedSum :
    (∃ c, bracketedSum.visit = .ok () c ∧
      ahead { c with place := c.place + 1 } + 1 ≤ bracketedSum.ahead) ∧
    ∃ k, scanWithin k 5 (bracketedSum.lay bracketedSum.tokens) =
      some (bracketedSum.lay bracketedSum.tokens).scan := by
  obtain ⟨hlook, -, -, k, hscan⟩ := scan_within bracketedSum bracketedSum.tokens
  obtain ⟨c, hc⟩ := reducePart_of_done (b := { bracketedSum with closing := bracketedSum.place })
    (by decide +kernel)
  have hvisit : bracketedSum.visit = .ok () c := (visit_of_atCloser rfl).trans hc
  exact ⟨⟨c, hvisit, hlook _ c hvisit⟩, k, hscan k (Nat.le_refl k)⟩

end Bench

end BrightLint
